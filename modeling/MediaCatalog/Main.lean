import MediaCatalog.CommandLine.Run

/-!
# The program

The command line as a program: it takes the settings from the variables of the process and prints
plainly. Its clock stands still.
-/

namespace MediaCatalog

/-- The environment of the process. -/
def processEnvironment : IO Environment := do
  let read (v : Variable) : IO (Option Text) := do
    return (← IO.getEnv (String.ofList v.name)).map String.toList
  return {
    logLevel := ← read .logLevel
    rendererName := ← read .rendererName
    rendererFormats := ← read .rendererFormats }

end MediaCatalog

open MediaCatalog in
/-- Runs the command line. -/
def main (args : List String) : IO UInt32 := do
  let env ← processEnvironment
  let transcript := CommandLine.run {} env (args.map String.toList)
  IO.print (String.ofList transcript.printed)
  let trace (crash : Crash) : Text := crash.kind ++ ": ".toList ++ crash.text ++ ['\n']
  IO.eprint (String.ofList (transcript.beside trace))
  return transcript.code.toNat.toUInt32
