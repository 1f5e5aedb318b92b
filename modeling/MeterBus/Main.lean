import MeterBus.Program.Monitor
import MeterBus.Program.Startup

/-!
# The command line

The first argument names the program, `mbus-debug` or `mbus-proxy`; the others are its own. The
programs do not touch the system themselves: the one file that they may ask for is read beforehand,
and what they leave behind is printed.
-/

namespace MeterBus

/-- The paths of the directories on a path. -/
def directoriesOn (path : String) : List String :=
  let names := path.splitOn "/"
  (List.range (names.length - 1)).map fun count =>
    String.intercalate "/" (names.take (count + 1)) ++ "/"

/-- A host with what stands under one path. -/
def hostWith (path : String) : IO Host := do
  try
    let content ← IO.FS.readBinFile path
    return { files := [(path, content.toList)], directories := directoriesOn path }
  catch
    | .inappropriateType .. => return { directories := path :: directoriesOn path }
    | _ => return {}

/-- The variables of the environment that the options of a program know. -/
def environmentOf (options : List CommandLine.OptionSpec) : IO (List (String × String)) :=
  (options.filterMap (·.environmentName)).filterMapM fun name => do
    return (← IO.getEnv name).map (name, ·)

/-- Runs the monitor. -/
def runMonitor (arguments : List String) : IO Report := do
  let host ← match Monitor.job arguments with
    | .ok { source := .capture path, .. } => hostWith path
    | _ => pure {}
  return Monitor.run host arguments

/-- Runs the proxy. -/
def runProxy (arguments : List String) : IO Report := do
  let environment ← environmentOf Startup.options
  let host ← match CommandLine.read Startup.options environment arguments with
    | .ok given =>
      match given.lookup "config" with
      | some path => hostWith path
      | none => pure {}
    | .error _ => pure {}
  return Startup.run host environment arguments

/-- Prints what a program leaves behind. -/
def Report.print (report : Report) : IO UInt32 := do
  for line in report.output do
    IO.println line
  for line in report.errorLines do
    IO.eprintln line
  return UInt32.ofNat report.exitCode

end MeterBus

/-- Runs the program that the first argument names. -/
def main (arguments : List String) : IO UInt32 := do
  let report ← match arguments with
    | "mbus-debug" :: rest => MeterBus.runMonitor rest
    | "mbus-proxy" :: rest => MeterBus.runProxy rest
    | _ => pure (MeterBus.Report.stopped "Usage: (mbus-debug | mbus-proxy) [OPTION]..." .misused)
  report.print
