import Chaining.Command.Report

set_option autoImplicit false

namespace Chaining.Command

/-- Why a file cannot be read, with the number that the system gives to the fault. -/
def fileFault : IO.Error → String
  | .noFileOrDirectory _ _ _ => "No such file or directory (os error 2)"
  | .permissionDenied _ _ _ => "Permission denied (os error 13)"
  | .inappropriateType _ code _ =>
    if code = 21 then "Is a directory (os error 21)" else "Not a directory (os error 20)"
  | error => toString error

def readTextFile (path : String) : IO (Except String String) := do
  try
    match String.fromUTF8? (← IO.FS.readBinFile path) with
    | some text => return .ok text
    | none => return .error "stream did not contain valid UTF-8"
  catch error => return .error (fileFault error)

def readEntropy : IO UInt64 := do
  let bytes ← IO.getRandomBytes 8
  return bytes.foldl (fun word byte => word * 256 + byte.toUInt64) 0

def version : String := "prodrule 0.1.0"

def synopsis : String := "Usage: prodrule [OPTIONS] <COMMAND>"

def help : String :=
  "\n".intercalate
    ["Production-rule inference engine",
     "",
     synopsis,
     "",
     "Commands:",
     "  forward   Forward-chain a knowledge base toward its goals",
     "  backward  Prove one goal by backward chaining",
     "  demo      Run the bundled CPU advisor",
     "  inspect   List a knowledge base's rules and facts",
     "  help      Print this message or the help of the given subcommand(s)",
     "",
     "Options:",
     "      --output <OUTPUT>  Output format (text or json) [default: text] " ++
       "[possible values: text, json]",
     "      --quiet            Suppress non-essential output",
     "  -h, --help             Print help",
     "  -V, --version          Print version"]

def writeRefusal : Refusal → IO Unit
  | .versionAsked => IO.println version
  | .helpAsked => IO.println help
  | .nothingGiven => IO.eprintln help
  | _ => IO.eprintln (synopsis ++ "\n\nFor more information, try '--help'.")

end Chaining.Command

def main (arguments : List String) : IO UInt32 := do
  match Chaining.Command.Invocation.ofArguments arguments with
  | .error refusal =>
    Chaining.Command.writeRefusal refusal
    return UInt32.ofNat refusal.exit
  | .ok invocation =>
    let files ← invocation.command.paths.mapM fun path => do
      return (path, ← Chaining.Command.readTextFile path)
    let readFile (path : String) : Except String String :=
      (files.lookup path).getD (.error "not read")
    let report := invocation.run ⟨readFile, ← Chaining.Command.readEntropy⟩
    IO.print report.output
    IO.eprint report.errors
    return UInt32.ofNat report.exit
