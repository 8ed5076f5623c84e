import EnvDoctor.CommandLine.Run
import EnvDoctor.Snapshot
import EnvDoctor.Text.CharacterName
import EnvDoctor.Version.Strict

/-!
# The program

Runs a command line on the environment that a snapshot on the standard input describes. The report
goes to the standard output; if the files have changed, the file that was written goes to the
standard error.
-/

open EnvDoctor

partial def readInput (stream : IO.FS.Stream) (text : String) : IO String := do
  let line ← stream.getLine
  if line.isEmpty then return text else readInput stream (text ++ line)

def main (words : List String) : IO UInt32 := do
  let input ← readInput (← IO.getStdin) ""
  match Json.read input.toList with
  | .error fault =>
    IO.eprintln (fault.message input.toList)
    return 2
  | .ok v =>
    let workspace := Snapshot.workspaceOf "/work" "/home" v
    let running := CommandLine.runOn .utf8 (Snapshot.programsOf v) words
    let (result, after) := running.run workspace
    if after.store ≠ workspace.store then
      for (place, content) in after.store.files.take 1 do
        IO.eprintln ("/" ++ "/".intercalate place ++ ": " ++ toString content.length ++ " bytes")
    match result with
    | .ok report =>
      IO.print report.print
      return UInt32.ofNat report.exit
    | .error fault =>
      IO.eprintln fault.message
      return 1
