import PageCache.CommandLine.Run
import PageCache.Machine.Snapshot
/-!
The program. It reads the description of a machine from standard input, and probes the files of that machine
that its arguments name.
-/

namespace PageCache

def CommandLine.Ending.status : CommandLine.Ending → UInt32
  | .returned status | .exited status => status.toUInt32
  | .escaped _ => 1

def CommandLine.Ending.report : CommandLine.Ending → String
  | .escaped fault => CommandLine.complaint fault.message
  | _ => ""

end PageCache

open PageCache in
def main (args : List String) : IO UInt32 := do
  let description ← (← IO.getStdin).readToEnd
  match (Json.parse description.toList).toOption.bind Snapshot.machine? with
  | none =>
    IO.eprint (CommandLine.complaint "no machine is described")
    return 2
  | some machine =>
    let prober := Prober.ofPlatform machine.platform true
    let transcript := ((CommandLine.run args).run ⟨machine, prober⟩).1
    IO.print transcript.stdout
    IO.eprint (transcript.stderr ++ transcript.ending.report)
    return transcript.ending.status
