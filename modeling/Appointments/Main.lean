-- The command line of the demonstration. Settings come from the environment.
import Appointments.Demo
namespace Appointments

/-- The names of the variables that settings are read from. -/
def settingNames : List String :=
  ["DEFAULT_TIME_ZONE", "DEFAULT_SLOT_DURATION_MIN", "DEFAULT_BUFFER_MIN", "MAX_SLOT_RANGE_DAYS",
    "DEFAULT_SLOT_RANGE_DAYS", "MAX_SLOTS_RETURNED", "MAX_BLACKOUT_DAYS",
    "DEFAULT_BOOKING_DURATION_MIN", "MIN_BOOKING_DURATION_MIN", "MAX_BOOKING_DURATION_MIN",
    "CANCEL_MIN_HOURS_BEFORE_START", "RESCHEDULE_MIN_HOURS_BEFORE_START", "MAX_HISTORY_HOPS",
    "DEFAULT_LIST_LIMIT", "MAX_LIST_LIMIT", "LOG_LEVEL", "SERVICE_NAME"]

/-- The variables of the environment that are set. -/
def readEnvironment : IO Environment := do
  let found ← settingNames.mapM fun name => do
    return (← IO.getEnv name).map fun value => (name, value)
  return found.filterMap fun x => x

def usage : String := "usage: demo [-h] [--scenario \x7bslots,reschedule,dst\x7d]"

/-- Plays the scenario that the arguments ask for. -/
def play (args : List String) : IO UInt32 := do
  match Settings.ofEnvironment (← readEnvironment) with
  | .error fault =>
    IO.eprintln fault.message
    return 1
  | .ok settings =>
    match Demo.Command.ofArguments args with
    | .misuse =>
      IO.eprintln usage
      return 2
    | .help =>
      IO.println usage
      return 0
    | .play scenario =>
      match Demo.lines settings scenario with
      | .error why =>
        IO.eprintln why.message
        return 1
      | .ok lines =>
        lines.forM IO.println
        return 0

end Appointments

def main (args : List String) : IO UInt32 := Appointments.play args
