import RouteAtlas.Text.Split

set_option autoImplicit false

namespace RouteAtlas

/-- The names from the root of the file system down to a file or directory. -/
abbrev Location := List String

namespace Location

def text (l : Location) : String :=
  String.ofList ('/' :: Text.join '/' (l.map String.toList))

def le : Location → Location → Bool
  | [], _ => true
  | _ :: _, [] => false
  | a :: as, b :: bs => if a = b then le as bs else a < b

end Location

namespace Path

def isAbsolute (path : String) : Bool := path.toList.head? = some '/'

def names (path : String) : List String :=
  ((Text.split '/' path.toList).filter fun c => c ≠ [] && c ≠ ['.']).map String.ofList

def enter (l : Location) (name : String) : Location := if name = ".." then l.dropLast else l ++ [name]

def locate (cwd : Location) (path : String) : Location :=
  (names path).foldl enter (if isAbsolute path then [] else cwd)

/-- Appends a path to a directory; an absolute path replaces it. -/
def join (base path : String) : String :=
  if isAbsolute path || base.isEmpty then path
  else if base.toList.getLast? = some '/' then base ++ path
  else base ++ "/" ++ path

def parent? (path : String) : Option String :=
  let ns := names path
  -- without a name there is a parent only above a leading `.`
  if ns.isEmpty then if path.isEmpty || isAbsolute path then none else some ""
  else
    let above := String.ofList (Text.join '/' (ns.dropLast.map String.toList))
    some (if isAbsolute path then "/" ++ above else above)

def fileName? (path : String) : Option String :=
  match (names path).getLast? with
  | some name => if name = ".." then none else some name
  | none => none

/-- The part of a file name before its last dot, and the part after it. A leading dot divides
nothing. -/
def splitExtension? (name : String) : Option (String × String) :=
  match Text.splitLast? '.' name.toList with
  | some (stem, ext) => if stem.isEmpty then none else some (String.ofList stem, String.ofList ext)
  | none => none

def extension? (path : String) : Option String :=
  (fileName? path).bind fun name => (splitExtension? name).map (·.2)

/-- A path without the slashes and dots that follow its last name, read backwards. -/
def dropTailReversed : List Char → List Char
  | '/' :: cs => dropTailReversed cs
  | '.' :: '/' :: cs => dropTailReversed cs
  | cs => cs

/-- The path with the extension of its file name replaced, or added. What stands before the file
name keeps its spelling. -/
def withExtension (path ext : String) : String :=
  match fileName? path with
  | none => path
  | some name =>
    let stem := ((splitExtension? name).map (·.1)).getD name
    let upToName := (dropTailReversed path.toList.reverse).reverse
    String.ofList (upToName.take (upToName.length - (name.length - stem.length))) ++ "." ++ ext

def sourceExtensions : List String := ["ts", "tsx", "mts", "cts", "js", "jsx", "mjs", "cjs"]

def declarationEndings : List String := [".d.ts", ".d.mts", ".d.cts"]

def isSource (path : String) : Bool :=
  match fileName? path with
  | none => false
  | some name =>
    !declarationEndings.any (fun e => (Text.beforeTail? e.toList name.toList).isSome) &&
      ((splitExtension? name).map fun p => sourceExtensions.contains p.2).getD false

end Path

end RouteAtlas
