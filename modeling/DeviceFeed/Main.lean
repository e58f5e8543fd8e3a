import DeviceFeed.Replay

/-!
# The program

This file connects the replay tool to the files, the standard input and the
standard output of a process.
-/

namespace DeviceFeed

def readSource (name : String) : IO Source := do
  try
    let content ← IO.FS.readBinFile name
    return .file content.data.toList
  catch
    | .noFileOrDirectory .. => return .missing
    | .inappropriateType _ code _ => return if code = 21 then .directory else .beyondFile
    | .invalidArgument .. => return .longName
    | _ => return .directory

/-- All that a stream holds. -/
partial def readAll (stream : IO.FS.Stream) (done : ByteArray) : IO ByteArray := do
  let chunk ← stream.read 65536
  if chunk.isEmpty then
    return done
  else
    readAll stream (done ++ chunk)

/-- The files that the options name. -/
def readFiles (options : Options) : IO (List (String × Source)) :=
  (options.input.toList ++ options.config.toList).mapM fun name => return (name, ← readSource name)

/-- The script on the standard input, if it is asked for. -/
def readInput (request : Option Request) : IO Source := do
  match request with
  | some (.replay { input := none, .. }) =>
    let content ← readAll (← IO.getStdin) .empty
    return .file content.data.toList
  | _ => return .missing

end DeviceFeed

open DeviceFeed

def main (arguments : List String) : IO UInt32 := do
  let request := CommandLine.request? arguments
  let options :=
    match request with
    | some (.replay options) => options
    | _ => {}
  let known ← readFiles options
  let files := fun name => (known.lookup name).getD .missing
  let input ← readInput request
  let outcome := Replay.call files input Replay.promptPrinter arguments
  IO.print outcome.stdout
  for line in outcome.logLines options.level do
    IO.eprintln line
  if outcome.closing ≠ "" then
    IO.eprintln outcome.closing
  return outcome.exitCode
