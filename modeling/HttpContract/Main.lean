import HttpContract.CommandLine.Report
import HttpContract.Sample

/-!
# The program

Describes the interfaces of the modules it is built with.
-/

def main (args : List String) : IO UInt32 := do
  let report := HttpContract.CommandLine.run [HttpContract.Sample.sample] HttpContract.Rehearsal.scope
    args
  (← IO.getStdout).putStr report.output
  (← IO.getStderr).putStr report.errors
  match report.stoppedBy with
  | some e => (← IO.getStderr).putStr (e.message ++ "\n")
  | none => pure ()
  return report.exitCode.toUInt32
