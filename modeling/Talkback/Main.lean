import Talkback.App.Program

/-!
The command line: the console program run on this process's arguments, environment and
standard input.

Standard input is read to its end first and typed line by line, then closed; the run then
happens in full. The settings file and the stand-in peer's transcript are read from disk
beforehand, and the directories and files the run wrote are put on disk afterwards. The
console's lines go to standard output, the error output to standard error, and the run's
exit code becomes the process's; a run that would wait for ever on a named pipe ends with
code 1.
-/

namespace Talkback.App

/-- The environment variables the program reads. -/
def readVariables : List String :=
  ["VOXLINK_CONFIG", "VOXLINK_FAKE_DEVICES", "VOXLINK_FAKE_FRAMES", "VOXLINK_FAKE_OPEN_ERROR",
   "VOXLINK_FAKE_WS", "VOXLINK_FAKE_WS_REJECT", "XDG_CONFIG_HOME", "HOME"]

/-- The actions of typing `text` and then closing the input. -/
def typing (text : String) : List Action :=
  let lines := text.splitOn "\n"
  let lines := if text.endsWith "\n" then lines.dropLast else lines
  lines.map .type ++ [.endInput]

/-- The files on disk the run may read: the settings file and the transcript. -/
def readsFrom (l : Launch) : List String :=
  let settings := match Invocation.parse l.args with
    | .run o => [l.environment.settingsPath o.config]
    | _ => []
  settings ++ (l.var "VOXLINK_FAKE_WS").toList

/-- The files with `data` stored at `p`, the directories above it made. -/
def Launch.store (l : Launch) (p : String) (data : List UInt8) : Launch :=
  match l.files.createParents p >>= fun fs => fs.write p data with
  | .ok fs => { l with files := fs }
  | .error _ => l

/-- The path on disk of the components `k` of a path in memory. -/
def diskPath : List String → String
  | "/" :: parts => "/" ++ String.intercalate "/" parts
  | _ :: parts => String.intercalate "/" parts
  | [] => ""

/-- What a run made that was not there before: the directories, in the order they were made,
then the files with their contents. -/
def madeBy (before after : Host.Files) : List String × List (String × List UInt8) :=
  let fresh := after.entries.filter fun e => !before.entries.contains e
  (fresh.filterMap fun (k, e) => if e == .dir then some (diskPath k) else none,
   fresh.filterMap fun (k, e) => match e with
     | .file d => some (diskPath k, d)
     | _ => none)

end Talkback.App

/-- Run the console program. -/
def main (args : List String) : IO UInt32 := do
  let env ← Talkback.App.readVariables.filterMapM fun v => do return (← IO.getEnv v).map (v, ·)
  let input ← (← IO.getStdin).readToEnd
  let start : Talkback.App.Launch := { args, env, files := {}, actions := Talkback.App.typing input }
  let mut l := start
  for p in Talkback.App.readsFrom start do
    try
      let data ← IO.FS.readBinFile p
      l := l.store p data.toList
    catch _ => pure ()
  let ending := Talkback.App.run l
  let (dirs, files) := Talkback.App.madeBy l.files ending.files
  for d in dirs do
    IO.FS.createDirAll d
  for (p, data) in files do
    IO.FS.writeBinFile p (ByteArray.mk data.toArray)
  for line in ending.stdout do
    IO.println line
  for line in ending.stderr do
    IO.eprintln line
  return (ending.exitCode.getD 1).toUInt32
