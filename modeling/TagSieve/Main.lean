import TagSieve.Command.Invocation

/-!
The command line program.
-/

open TagSieve

def main (args : List String) : IO UInt32 := do
  match Invocation.ofArguments? args with
  | none =>
    (← IO.getStderr).putStrLn "error: invalid arguments"
    return 2
  | some i =>
    let stdin ← if i.readsInput then (← IO.getStdin).readBinToEnd else pure ByteArray.empty
    let outcome := i.run .brief stdin
    (← IO.getStdout).putStr outcome.stdout
    (← IO.getStderr).putStr outcome.stderr
    return outcome.code
