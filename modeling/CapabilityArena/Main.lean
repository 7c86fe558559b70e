import CapabilityArena.CommandLine

/-!
The command line: reads the manifest that a command names and prints what the command leaves behind.
-/

open CapabilityArena

def main (args : List String) : IO UInt32 := do
  match Command.ofArgs? args with
  | none =>
    IO.eprintln Command.usage
    return 2
  | some command =>
    let text ← (IO.FS.readFile command.manifest).toBaseIO
    let outcome := command.run fun _ => text.toOption
    IO.print outcome.output
    if let some report := outcome.report then IO.eprintln report
    return outcome.exitCode.toUInt32
