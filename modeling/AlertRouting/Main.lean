import AlertRouting.CommandLine.Arguments

/-!
# The program

Reads the file that is named on the command line and prints the report. The exit code is 1 when the
command fails and 2 when its arguments are refused.
-/
namespace AlertRouting.CommandLine

/-- The number of an error, which the system reports with either sign. -/
def errorNumber (code : UInt32) : Nat :=
  if code.toNat < 2147483648 then code.toNat else 4294967296 - code.toNat

def readFault : IO.Error → ReadFault
  | .noFileOrDirectory _ code _ | .inappropriateType _ code _ | .permissionDenied _ code _
  | .invalidArgument _ code _ | .resourceExhausted _ code _ => .refused (errorNumber code)
  | .hardwareFault code _ | .otherError code _ => .refused (errorNumber code)
  | _ => .refused 5

def readText (path : String) : IO (Except ReadFault String) := do
  match (← (IO.FS.readBinFile path).toBaseIO) with
  | .ok bytes => return decodeText bytes
  | .error e => return .error (readFault e)

def answer [Regex.SizeLimit] : Except Refusal Request → IO UInt32
  | .error refusal => do
    IO.eprintln ("error: " ++ refusal.message)
    return 2
  | .ok .help => do
    IO.print usage
    return 0
  | .ok .version => do
    IO.println version
    return 0
  | .ok (.run command) => do
    let response := command.respond (← readText command.path)
    response.notes.forM fun line => IO.eprintln line
    IO.print response.output
    return response.exit.toUInt32

end AlertRouting.CommandLine

/-- Patterns are matched as they are read, so none is too large. -/
def main (arguments : List String) : IO UInt32 :=
  let _ := AlertRouting.Regex.SizeLimit.unlimited
  AlertRouting.CommandLine.answer (AlertRouting.CommandLine.Request.read arguments)
