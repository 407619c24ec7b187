import CommandManual.CommandLine.Run

/-!
# The program

The files that the arguments can be about are taken from the disk, the run is computed, and what it
changed is put back. The program finds its own declaration and no others.

## Main definitions

* `CommandLine.mentioned`: the paths that a run can look at.
* `CommandLine.ownRegistry`: the declared program that is always found.
* `main`: a run with the arguments of the process.
-/

namespace CommandManual

namespace CommandLine

/-- The paths that a run with some arguments can look at: the configuration files, the arguments and
what they give to an option, and the sidecar files beside them all. -/
def mentioned (args : List Text) : List Path :=
  let given := args.flatMap fun a => [a, a.drop 2] ++ (Text.cutAt '=' a).2.toList
  let paths := ([Config.fileName, Config.projectFileName] ++ given).map Path.ofText
  paths ++ paths.map Path.sidecar

/-- The module of the program itself. -/
def ownRegistry : Registry :=
  let command (d : Declaration) : Attribute := .command d []
  [{ name := Interface.program, isPackage := true, attributes := [] },
   { name := Interface.program ++ ".cli".toList
     attributes := ("main".toList, command Interface.declaration)
       :: Interface.Command.all.map fun c => (c.name, command (Interface.declared c)) }]

/-- The text of a place as the system takes it. -/
def systemPath (l : Location) : String := String.ofList (Workspace.pathOf l).text

/-- The disk with the directories around a place. -/
def withDirectories (d : Disk) (l : Location) : Disk :=
  (List.range l.length).foldl (fun d i =>
    d.put (l.take (i + 1)) (.directory Node.directoryMode)) d

/-- What the system has in a place; nothing if it cannot be read. -/
def look (l : Location) : IO (Option Node) := do
  try
    let bytes ← IO.FS.readBinFile (systemPath l)
    return some (.file bytes.toList Node.fileMode)
  catch
    | .inappropriateType .. => return some (.directory Node.directoryMode)
    | _ => return none

/-- The place behind all links. -/
def realPlace (l : Location) : IO Location := do
  try return (Path.ofText (← IO.FS.realPath (systemPath l)).toString.toList).names
  catch _ => return l

/-- Take what names lead to from the system. -/
def take (d : Disk) (here : Location) : List Text → IO Disk
  | [] => return d
  | n :: ns =>
    if n = ['.', '.'] then take d here.dropLast ns
    else do
      let place := here ++ [n]
      match ← look place with
      | none => return d
      | some node =>
        let target ← realPlace place
        let d := if target = place then d
          else (withDirectories d target.dropLast).put place
            (.link (Workspace.pathOf target).text)
        take (d.put target node) target ns

/-- Give what has changed on a disk back to the system. -/
def giveBack (old new : Disk) : IO Unit := do
  for s in new.slots do
    if s.node.isDirectory && old.node? s.place = none then IO.FS.createDirAll (systemPath s.place)
  for s in new.slots do
    if let .file bytes _ := s.node then
      if old.node? s.place ≠ some s.node then
        IO.FS.writeBinFile (systemPath s.place) ⟨bytes.toArray⟩
  for s in old.slots do
    if new.node? s.place = none then IO.FS.removeFile (systemPath s.place)

/-- Run the program with some arguments, and give its exit code. -/
def execute (args : List Text) : IO UInt32 := do
  let here := (Path.ofText (← IO.currentDir).toString.toList).names
  let mut disk := withDirectories {} here
  let homes := (← IO.getEnv "HOME").toList.map fun h => ([], Path.ofText h.toList)
  let paths := mentioned args
  let fromHome := paths.filterMap ({ disk, here, homes : Workspace }).fromHome?
  for p in paths ++ fromHome do
    disk ← take disk (if p.isAbsolute then [] else here) p.names
  let (outcome, w) := run ownRegistry { disk, here, homes } args
  giveBack disk w.disk
  IO.eprint (String.ofList (Text.terminated outcome.notes))
  IO.eprint (String.ofList (outcome.ending.difference?.getD []))
  IO.eprint (String.ofList outcome.ending.stderr)
  IO.print (String.ofList outcome.ending.stdout)
  return outcome.ending.exitCode.toUInt32

end CommandLine

end CommandManual

/-- Run the program with the arguments of the process. -/
def main (args : List String) : IO UInt32 :=
  CommandManual.CommandLine.execute (args.map (·.toList))
