import TurtleGraphics.CommandLine

/-! # The program

Reads what a command needs, lets it decide what to do, and writes what it says. -/

namespace TurtleGraphics

/-- The refusal behind a failed read or write. -/
def systemError : IO.Error → SystemError
  | .alreadyExists _ code details | .invalidArgument _ code details | .permissionDenied _ code details
  | .resourceExhausted _ code details | .inappropriateType _ code details | .noSuchThing _ code details
  | .interrupted _ code details | .noFileOrDirectory _ code details | .otherError code details
  | .resourceBusy code details | .resourceVanished code details | .unsupportedOperation code details
  | .hardwareFault code details | .unsatisfiedConstraints code details | .illegalOperation code details
  | .protocolError code details | .timeExpired code details => ⟨code.toNat, details⟩
  | .unexpectedEof => ⟨0, "unexpected end of file"⟩
  | .userError details => ⟨0, details⟩

/-- What reading bytes as text gives. -/
def readText (bytes : IO ByteArray) : IO (Except ReadError String) := do
  match ← bytes.toBaseIO with
  | .ok bytes => return decodeText bytes
  | .error e => return .error (.system (systemError e))

/-- Everything that a stream holds. -/
partial def readAll (stream : IO.FS.Stream) (before : ByteArray) : IO ByteArray := do
  let bytes ← stream.read 65536
  if bytes.isEmpty then return before else readAll stream (before ++ bytes)

/-- The last words of the program when standard output fails where that is not provided for. -/
def lastWords (e : SystemError) : String :=
  "standard output failed: " ++ e.message ++ "\n"

/-- Reads the files and the input that a command asks for. -/
def prepare (command : Command) : IO Host := do
  let (wantsInput, paths) : Bool × List String := match command with
    | .run .standardInput | .format .standardInput => (true, [])
    | .run (.file path) | .format (.file path) => (false, [path])
    | .check paths => (false, paths)
    | .version => (false, [])
  let input ← if wantsInput then readText (do readAll (← IO.getStdin) .empty) else pure (.ok "")
  let files ← paths.mapM fun (path : String) => do
    return (path, ← readText (IO.FS.withFile path .read fun file => file.readBinToEnd))
  return {
    file := fun path => (files.lookup path).getD (.error (.system .notFound))
    input := input
    outputError := none
    abortReport := lastWords }

/-- Writes to standard output, and says why if that fails. -/
def writeOutput (text : String) : IO (Option SystemError) := do
  let write : IO Unit := do
    let stream ← IO.getStdout
    stream.putStr text
    stream.flush
  match ← write.toBaseIO with
  | .ok _ => return none
  | .error e => return some (systemError e)

end TurtleGraphics

open TurtleGraphics in
def main (arguments : List String) : IO UInt32 := do
  let host ← match Command.ofArguments? arguments with
    | some command => prepare command
    | none => pure ⟨fun _ => .error (.system .notFound), .ok "", none, lastWords⟩
  let hoped := Command.outcomeOf host arguments
  let outcome ← match ← writeOutput hoped.output with
    | none => pure hoped
    | some e => pure (Command.outcomeOf { host with outputError := some e } arguments)
  (← IO.getStderr).putStr outcome.errors
  return outcome.status.code.toUInt32
