import TableRobot.Console.Run
/-!
# Command line

The outer layer: reads arguments, environment, files and standard input, calls
the console and writes what it gives.
-/

namespace TableRobot

def helpText : String :=
  "usage: robotsim [-h] [--grid-size SIZE] [--json] [-v] [-q] [--log-level LEVEL] [file ...]\n"

/-- A file's bytes, or why the file cannot be opened. -/
def openFile (path : Text) : IO (Except Console.OpenReason (List UInt8)) := do
  try
    let bytes ← IO.FS.readBinFile (String.ofList path)
    pure (.ok bytes.toList)
  catch
    | .noFileOrDirectory .. => pure (.error .missing)
    | .permissionDenied .. => pure (.error .denied)
    | .inappropriateType (some _) .. => pure (.error .notAFolder)
    | .inappropriateType none .. => pure (.error .isAFolder)
    | .invalidArgument .. => pure (.error .nameTooLong)
    | _ => pure (.error .missing)

partial def readAll (stream : IO.FS.Stream) (read : ByteArray) : IO ByteArray := do
  let chunk ← stream.read 8192
  if chunk.isEmpty then pure read else readAll stream (read ++ chunk)

def environmentVariable (name : String) : IO (Option Text) :=
  return (← IO.getEnv name).map String.toList

/-- Writes the lines of the journal to the standard error. -/
def tellAll (threshold : Nat) (events : List Event) : IO Unit :=
  (journal threshold events).forM fun line => IO.eprintln (String.ofList line)

end TableRobot

open TableRobot in
def main (arguments : List String) : IO UInt32 := do
  let environment :=
    ⟨← environmentVariable "ROBOTSIM_GRID_SIZE", ← environmentVariable "ROBOTSIM_TRACE"⟩
  let settings := Settings.read environment
  tellAll Level.warning.severity settings.events
  match Console.readArguments (arguments.map String.toList) with
  | .error fault =>
      IO.eprintln (String.ofList fault.line)
      pure 2
  | .ok .help =>
      IO.print helpText
      pure 0
  | .ok (.run options) =>
      let files ← options.files.mapM fun path => return (path, ← openFile path)
      let lookUp path := (files.lookup path).getD (.error .missing)
      let input ←
        if options.files.isEmpty then readAll (← IO.getStdin) .empty else pure .empty
      let result :=
        Console.program settings.value lookUp (.ofBytes input.toList) options
      IO.print (String.ofList result.value.output)
      tellAll (options.threshold settings.value) result.events
      if let some complaint := result.value.ending.complaint? then
        IO.eprintln (String.ofList complaint)
      pure (UInt32.ofNat result.value.ending.code)
