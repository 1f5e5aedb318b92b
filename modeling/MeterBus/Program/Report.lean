import MeterBus.Program.CommandLine

/-!
# What a program leaves behind

The lines that it printed, the reasons why it failed, and its exit code.
-/

namespace MeterBus

/-- What a program leaves behind. -/
structure Report where
  exitCode : Nat := 0
  output : List String := []
  /-- Why it failed, the outermost reason first. -/
  causes : List String := []
  deriving DecidableEq, Repr

namespace Report

/-- The report of a program that failed. -/
def failed (output causes : List String) : Report where
  exitCode := 1
  output := output
  causes := causes

/-- The name and the version of the programs. -/
def version : String := "mbus-protocol 0.3.0"

/-- The report of a program that did not do its work. -/
def stopped (usage : String) : CommandLine.Stop → Report
  | .misused => { exitCode := 2, causes := [usage] }
  | .version => { output := [version] }
  | .help => { output := [usage] }

/-- The reasons below the outermost one; several of them are numbered. -/
def innerCauses : List String → List String
  | [] => []
  | [cause] => ["", "Caused by:", "    " ++ cause]
  | causes =>
    ["", "Caused by:"]
      ++ causes.mapIdx fun index cause => "    " ++ toString index ++ ": " ++ cause

/-- The lines that tell why a program failed. -/
def errorLines (report : Report) : List String :=
  match report.causes with
  | [] => []
  | outermost :: inner =>
    (if report.exitCode = 1 then "Error: " ++ outermost else outermost) :: innerCauses inner

end Report

end MeterBus
