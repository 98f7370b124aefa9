import RouteAtlas.Framework

set_option autoImplicit false

namespace RouteAtlas

structure RpcOptions where
  factoryNames : List String :=
    ["createRouter", "createTRPCRouter", "createProtectedRouter", "router", "t.router"]
  routerPattern : Option String := none
  endpoint : String := "/api/trpc"

structure CmsOptions where
  configFiles : List String :=
    ["payload.config.ts", "payload.config.js", "payload.config.mjs", "src/payload.config.ts",
      "src/payload.config.js"]

structure ScanOptions where
  frameworks : FrameworkOptions := {}
  rpc : RpcOptions := {}
  cms : CmsOptions := {}

end RouteAtlas
