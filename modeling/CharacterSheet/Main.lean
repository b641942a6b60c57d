import CharacterSheet.Command.Run

/-!
# The command line

What a command names is read from disk, the command is run on it, and what has changed is
written back.
-/

namespace CharacterSheet.CommandLine

/-- The place on disk of a location. -/
def place (l : Location) : String := "/" ++ "/".intercalate l

/-- The location of a place on disk. -/
def location (s : String) : Location := (Path.ofText s).parts

/-- The store with what is at a location on disk; of a directory only that it is there. -/
def look (s : FileStore) (l : Location) : IO FileStore := do
  let entry := (← IO.currentDir) / place l
  if ← entry.isDir then return s.addDirectory l
  else if ← entry.pathExists then
    return { s with files := FileStore.put l (← IO.FS.readFile entry) s.files }
  else return s

/-- The store with the documents below a location on disk. -/
partial def lookBelow (s : FileStore) (l : Location) : IO FileStore := do
  let directory := (← IO.currentDir) / place l
  let mut s := s
  for entry in ← directory.readDir do
    let below := l ++ [entry.fileName]
    if ← entry.path.isDir then s ← lookBelow s below
    else if DocumentFormat.isDocument ⟨true, below⟩ then s ← look s below
  return s

/-- The store with what is on the way of a path on disk, and below its end. -/
def lookAlong (s : FileStore) (p : Path) : IO FileStore := do
  let mut s := s
  let mut l := s.start p
  for name in p.parts do
    l := FileStore.step l name
    s ← look s l
  if s.isDirectoryAt l then lookBelow s l else return s

/-- The paths that a command writes to. -/
def targets : Command → List Path
  | .starter target => target.toList
  | .importLegacy _ target | .exportSchemas target _ => [target]
  | _ => []

/-- Write what a store has and another has not. -/
def writeChanges (before after : FileStore) : IO Unit := do
  for l in after.directories do
    if !before.isDirectoryAt l then IO.FS.createDirAll (place l)
  for (l, text) in after.files do
    if before.textAt? l != some text then IO.FS.writeFile (place l) text

/-- The sequence of numbers that a generator gives. -/
def numbers (g : StdGen) : Nat → Nat
  | 0 => (stdNext g).1
  | n + 1 => numbers (stdNext g).2 n

/-- The command that arguments ask for, of either program. -/
def readCommand (arguments : List String) : Except UsageError Command :=
  match Program.workbench.read arguments with
  | .error (.unknownCommand _) => Program.inspector.read arguments
  | result => result

/-- Run a command on the files on disk. -/
def perform (command : Command) : IO UInt32 := do
  let home := (← IO.getEnv "HOME").getD "/"
  let settings := location home ++ [".character-sheet", "settings.json"]
  let mut store : FileStore := { current := location (← IO.currentDir).toString }
  store := store.addDirectory store.current
  for p in command.sources ++ targets command do
    store ← lookAlong store p
  let kept := (← look {} settings).textAt? settings
  let seed ← IO.rand 0 (2 ^ 31)
  let (report, after) := Workspace.run ⟨store, kept⟩ (numbers (mkStdGen seed)) command
  writeChanges store after.store
  if let some text := after.settings then
    if after.settings != kept then
      IO.FS.createDirAll (place settings.dropLast)
      IO.FS.writeFile (place settings) text
  for line in report.output do IO.println line
  for notice in report.notices do IO.eprintln notice.text
  if let .broken cause := report.ending then IO.eprintln ("[ERROR] " ++ cause.message)
  return (exitStatus (.ok report)).toUInt32

end CharacterSheet.CommandLine

/-- Run the command that the arguments ask for. -/
def main (arguments : List String) : IO UInt32 :=
  match CharacterSheet.CommandLine.readCommand arguments with
  | .ok command => CharacterSheet.CommandLine.perform command
  | .error e => do
    IO.eprintln ("Error: " ++ e.message)
    return (CharacterSheet.exitStatus (.error e)).toUInt32
