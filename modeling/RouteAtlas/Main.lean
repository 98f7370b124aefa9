import RouteAtlas.CommandLine

set_option autoImplicit false

open RouteAtlas

partial def snapshot (disk : Disk) (path : String) : IO Disk := do
  let dir := (← IO.currentDir) / path
  let mut disk := disk
  if ← dir.isDir then
    disk := disk.put (disk.locate path) (((disk.entry? (disk.locate path)).getD (.dir [])))
    for e in ← dir.readDir do
      let below := Path.join path e.fileName
      if ← e.path.isDir then
        unless Project.ignoredDirs.contains e.fileName do disk ← snapshot disk below
      else disk ← snapshotFile disk below
  return disk
where
  snapshotFile (disk : Disk) (path : String) : IO Disk := do
    match ← (IO.FS.readBinFile path).toBaseIO with
    | .ok content => return disk.put (disk.locate path) (.file content)
    | .error _ => return disk

/-- The part of the file system that a scan looks at: the project, the options, and what stands
in the directories above the project. -/
def diskFor (root : String) (config : Option String) : IO Disk := do
  let cwd := Path.names (← IO.currentDir).toString
  let mut disk : Disk := ⟨cwd, Entry.put (.dir []) cwd (.dir [])⟩
  disk ← snapshot disk root
  if let some path := config then disk ← snapshot.snapshotFile disk path
  for n in List.range (disk.locate root).length do
    let above : Location := (disk.locate root).take n
    let dir := (← IO.currentDir) / above.text
    for e in ← dir.readDir do
      if Path.extension? e.fileName = some "json" then
        disk ← snapshot.snapshotFile disk (Path.join above.text e.fileName)
  return disk

def report (verbose : Bool) (m : Message) : IO Unit :=
  match m.level with
  | .debug => if verbose then IO.eprintln s!"DEBUG {m.text}" else pure ()
  | .info => IO.eprintln s!"INFO {m.text}"
  | .warn => IO.eprintln s!"WARN {m.text}"

def main (args : List String) : IO UInt32 := do
  let empty : Disk := ⟨[], .dir []⟩
  let (disk, verbose) ← match CommandLine.parse? args with
    | some (.scan root s) => pure (← diskFor root s.config, s.verbose)
    | _ => pure (empty, false)
  let r := CommandLine.run disk args
  for m in r.log do report verbose m
  match r.value with
  | .routes text => IO.print text
  | .info text => IO.print text
  | .failed f => IO.eprintln f.message
  | .usage => IO.eprintln "error: wrong usage, see --help"
  return UInt32.ofNat r.value.exitCode
