import ManifestGrading.CommandLine.Publish

/-! The commands as programs. The files that the arguments name are read, and those that a command leaves changed are
written back. -/

namespace ManifestGrading

namespace Program

/-- The places on the way that names lead from the directory at `here`, and the place where it ends. -/
def wayFrom (here : List String) : List String → List (List String) × List String
  | [] => ([], here)
  | name :: rest =>
    let (way, last) := wayFrom (Files.step here name) rest
    (here :: way, last)

/-- The ways to the places that an argument may name, on its own or behind an equals sign. -/
def waysIn (argument : String) : List (List (List String) × List String) :=
  (argument :: (CommandLine.splitAtSign argument).2.toList).map fun s =>
    wayFrom (Path.ofText s).start (Path.ofText s).parts

/-- A place as an entry of the current directory. -/
def entryAt (names : List String) : IO IO.FS.DirEntry := return ⟨← IO.currentDir, "/".intercalate names⟩

/-- What stands at a place, and in the directory there if `deep` asks for that. -/
partial def readAt (deep : Bool) (names : List String) : IO (List (List String × FileEntry)) := do
  let path := (← entryAt names).path
  if ← path.isDir then
    let parts ← if deep then path.readDir else pure #[]
    let below ← parts.toList.mapM fun part => readAt true (names ++ [part.fileName])
    return (names, .directory) :: below.flatten
  else if ← path.pathExists then return [(names, .file (← IO.FS.readBinFile path).toList)]
  else return []

/-- Whether a place is below another one. -/
def isBelow (names above : List String) : Bool :=
  names != above && above.isPrefixOf names && Files.isOutside names = Files.isOutside above

/-- The files that arguments may name, and the directories on the ways to them. -/
def readFiles (arguments : List String) : IO Files := do
  let ways := arguments.flatMap waysIn
  let ends := (ways.map Prod.snd).eraseDups
  let ends := ends.filter fun names => !ends.any (isBelow names)
  let passed := (ways.flatMap Prod.fst).eraseDups.filter fun names => !ends.any fun e => e = names || isBelow names e
  return ⟨(← passed.mapM (readAt false)).flatten ++ (← ends.mapM (readAt true)).flatten⟩

/-- All that is left of a stream. -/
partial def readRest (stream : IO.FS.Stream) (before : ByteArray) : IO ByteArray := do
  let chunk ← stream.read 65536
  if chunk.isEmpty then return before else readRest stream (before ++ chunk)

/-- The files that differ from those before are written. -/
def writeChanges (before after : Files) : IO Unit := do
  for (names, entry) in after.entries do
    if before.entries.lookup names != some entry then
      match entry with
      | .directory => IO.FS.createDirAll (← entryAt names).path
      | .file bytes => IO.FS.writeBinFile (← entryAt names).path bytes.toByteArray

/-- What a command prints is printed, and its end is the end of the program. -/
def finish {φ : Type} (message : φ → String) (o : CommandLine.Outcome φ) : IO UInt32 := do
  IO.print o.output
  match o.ending with
  | .exit status => return UInt32.ofNat status
  | .usage line =>
    IO.eprintln line
    return 2
  | .fault f =>
    IO.eprintln (message f)
    return 1

end Program

end ManifestGrading

open ManifestGrading

/-- The program publishes reports if it is called by the name for that, and scores manifests otherwise. -/
def main (arguments : List String) : IO UInt32 := do
  let isPublishing := (← IO.appPath).fileName = some CommandLine.PublishSettings.program
  if isPublishing then
    let destination ← IO.getEnv "GITHUB_STEP_SUMMARY"
    let before ← Program.readFiles (arguments ++ destination.toList)
    let (after, outcome) := CommandLine.publish before destination arguments
    Program.writeChanges before after
    Program.finish Publish.JobFault.message outcome
  else
    let files ← Program.readFiles arguments
    let input ← if arguments.contains "-" then Program.readRest (← IO.getStdin) .empty else pure .empty
    let terminal ← (← IO.getStdout).isTty
    Program.finish (fun f => f.message.shown) (CommandLine.score ⟨files, input.toList, []⟩ terminal arguments)
