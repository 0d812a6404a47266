import VariantSudoku.Command

set_option autoImplicit false

namespace VariantSudoku.Main

open Command

-- A number as the system gives it; some calls give it negated.
def systemError (code : UInt32) : FileError :=
  .system (min code (0 - code)).toNat

-- A failure that has no number counts as one of input or output.
def fileError : IO.Error → FileError
  | .alreadyExists _ code _ | .otherError code _ | .resourceBusy code _ | .resourceVanished code _
  | .unsupportedOperation code _ | .hardwareFault code _ | .unsatisfiedConstraints code _
  | .illegalOperation code _ | .protocolError code _ | .timeExpired code _
  | .interrupted _ code _ | .noFileOrDirectory _ code _ | .invalidArgument _ code _
  | .permissionDenied _ code _ | .resourceExhausted _ code _ | .inappropriateType _ code _
  | .noSuchThing _ code _ => systemError code
  | .unexpectedEof | .userError _ => .system 5

def decoded (bytes : ByteArray) : Except FileError String :=
  match String.fromUTF8? bytes with
  | some text => .ok text
  | none => .error .notText

def attempted {α : Type} (action : IO α) : IO (Except FileError α) := do
  match ← action.toBaseIO with
  | .ok a => return .ok a
  | .error e => return .error (fileError e)

partial def readAll (stream : IO.FS.Stream) (before : ByteArray) : IO ByteArray := do
  let bytes ← stream.read 65536
  if bytes.isEmpty then return before else readAll stream (before ++ bytes)

def console : Console IO where
  readInput := do
    let bytes ← attempted (do readAll (← IO.getStdin) ByteArray.empty)
    return bytes.bind decoded
  load path := do
    let bytes ← attempted (IO.FS.readBinFile path)
    return bytes.bind decoded
  save path text := attempted (IO.FS.writeFile path text)
  out text := do
    let stdout ← IO.getStdout
    stdout.putStr text
    stdout.flush
  err text := do
    let stderr ← IO.getStderr
    stderr.putStr text
    stderr.flush

end VariantSudoku.Main

open VariantSudoku in
def main (args : List String) : IO UInt32 := do
  match Command.readArgs {} args with
  | .error e =>
      Main.console.err ("error: " ++ e.message ++ "\n\nFor more information, try '--help'.\n")
      return 2
  | .ok request =>
      match ← (Command.perform Main.console request).run with
      | .ok () => return 0
      | .error failure =>
          Main.console.err ("error: " ++ failure.message ++ "\n")
          return 1
