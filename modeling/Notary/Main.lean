import Notary.Client.Basic
import Notary.Command.Delivery

namespace Notary

/-!
The command line. The words, the environment and the files are read here; remote endpoints are out
of reach, and a ledger in memory is always at hand.
-/

def readFile (path : String) : IO Config.File := do
  try
    let bytes ← IO.FS.readBinFile path
    return .content bytes.toList
  catch _ =>
    return .missing

/-- Every word and every path in it that may name a file. -/
def candidates (words : List String) (namedConfig : Option String) : List String :=
  namedConfig.toList ++ words.flatMap fun word =>
    match Command.Word.ofText word with
    | .sets .config path => [path]
    | _ => [word]

def runCommand (words : List String) : IO UInt32 := do
  let namedSeed ← IO.getEnv "LEDGER_BRIDGE_SEED"
  let namedConfig ← IO.getEnv "LEDGER_BRIDGE_CONFIG"
  let files ← (candidates words namedConfig).mapM fun path => return (path, ← readFile path)
  let report :=
    Command.run (Client.gateway .closed ()) (fun path => (files.lookup path).getD .missing)
      namedSeed namedConfig words
  IO.print report.output
  match report.failure with
  | some failure => IO.eprintln ("Error: " ++ failure.message)
  | none => pure ()
  return UInt32.ofNat report.exitCode

end Notary

def main (words : List String) : IO UInt32 :=
  Notary.runCommand words
