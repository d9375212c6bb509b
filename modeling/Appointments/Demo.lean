-- The demonstration: one provider with weekly hours, and a scenario played at
-- the desk with the clock stopped, told line by line.
import Appointments.Desk.Bookings
import Appointments.World
namespace Appointments.Demo

/-! ## Lines -/

/-- A colour or a weight of letters on a terminal. -/
inductive Style
  | blue
  | green
  | yellow
  | red
  | dim
  | bold
deriving DecidableEq, Repr

def Style.start : Style → String
  | .blue => "\x1b[94m"
  | .green => "\x1b[92m"
  | .yellow => "\x1b[93m"
  | .red => "\x1b[91m"
  | .dim => "\x1b[2m"
  | .bold => "\x1b[1m"

def styled (style : Style) (text : String) : String := style.start ++ text ++ "\x1b[0m"

/-- The first eight characters of an id. -/
def short (id : String) : String := String.ofList (id.toList.take 8)

/-- Text with blanks behind it, up to nine characters. -/
def nineWide (s : String) : String := s ++ String.ofList (List.replicate (9 - s.length) ' ')

/-- A story in the making: what is done at the desk, and the lines told so
far, which stay where it fails. -/
abbrev Story := ExceptT Failure (StateT (List String) Program)

def line (s : String) : Story Unit := modify (· ++ [s])

def act (a : Action α) : Story α := ExceptT.mk (StateT.lift a.run)

def say (text : String) : Story Unit := line (styled .green text)

def remark (text : String) : Story Unit := line (styled .dim ("  >> " ++ text))

def tellSlots (slots : List Interval) (limit : Nat) : Story Unit := do
  for slot in slots.take limit do
    line ("  " ++ styled .blue (slot.start.document ++ " -> " ++ slot.stop.document))
  if limit < slots.length then
    remark ("... " ++ toString (slots.length - limit) ++ " more")

def tellBooking (b : Booking) (marker : String) : Story Unit :=
  let links := (b.predecessor?.toList.map ("from=" ++ short ·)) ++
    (b.successor?.toList.map ("to=" ++ short ·))
  line ("  " ++ styled .yellow (short b.id) ++ " " ++ nineWide b.status.word ++ " " ++
    b.start.document ++ " " ++ String.intercalate " " links ++ marker)

/-! ## The parties and their hours -/

def client : Actor := ⟨"client-demo", .client⟩

def provider : Actor := ⟨"provider-demo", .provider⟩

/-- A weekday with ranges of clock times. -/
def hoursOf (weekday : Int) (ranges : List (String × String)) : Value :=
  .object [("dayOfWeek", .int weekday), ("ranges", .list (ranges.map fun (start, stop) =>
    .object [("start", .text start), ("end", .text stop)]))]

def workweek : Value :=
  .list ([1, 2, 3, 4, 5].map (hoursOf · [("09:00", "12:00"), ("13:00", "17:00")]))

/-- Sunday hours around the change of the clocks. -/
def sundayNight : Value := .list [hoursOf 0 [("02:00", "04:00"), ("09:00", "10:00")]]

def seed (desk : Desk) (weekly : Value) : Story Unit := do
  let _ ← act <| desk.updateTemplate (.text provider.id) [("time_zone", .text "Europe/Berlin"),
    ("slot_duration_min", .int 60), ("buffer_min", .int 0), ("weekly", weekly)]
  remark ("Provider " ++ provider.id ++ " seeded in Europe/Berlin")

/-! ## The scenarios -/

inductive Scenario
  | slots
  | reschedule
  | dst
deriving DecidableEq, Repr

namespace Scenario

def name : Scenario → String
  | slots => "slots"
  | reschedule => "reschedule"
  | dst => "dst"

def all : List Scenario := [slots, reschedule, dst]

def ofName? (s : String) : Option Scenario := all.find? (·.name == s)

end Scenario

/-- The free slots of one day. -/
def slotsOn (desk : Desk) (day : String) : Story (List Interval) :=
  act (desk.freeSlots (.text provider.id) (.value (.text day)) (.value (.text day)) .null)

/-- A client books from the given start on. -/
def bookAt (desk : Desk) (start : String) : Story Booking :=
  act (desk.book client (.text "request-1") (.text "response-1") (.text provider.id) (.text start)
    .null .null)

def playSlots (desk : Desk) : Story Unit := do
  seed desk workweek
  say "Free slots on Monday 2026-03-02:"
  tellSlots (← slotsOn desk "2026-03-02") 10
  let blackout ← act <| desk.addBlackout (.text provider.id) (.text "2026-03-02T09:30:00Z")
    (.text "2026-03-02T10:30:00Z") (.text "Dentist") (.bool true)
  remark ("Blackout " ++ short blackout.id ++ " added (" ++ blackout.reason.getD "None" ++ ")")
  let booking ← bookAt desk "2026-03-02T14:00:00Z"
  remark ("Booking " ++ short booking.id ++ " created at " ++ booking.start.document)
  say "Free slots after the blackout and the booking:"
  tellSlots (← slotsOn desk "2026-03-02") 10

def playReschedule (desk : Desk) : Story Unit := do
  seed desk workweek
  let first ← bookAt desk "2026-03-09T08:00:00Z"
  remark ("Booked " ++ first.start.document)
  let second ← act <| desk.reschedule client (.text first.id) (.text "2026-03-10T09:00:00Z") .null
    (.text "Clash at work")
  remark ("Client moved it to " ++ second.start.document)
  let third ← act <| desk.reschedule provider (.text second.id) (.text "2026-03-11T13:00:00Z")
    .null (.text "Provider running late")
  remark ("Provider moved it to " ++ third.start.document)
  let history ← act (desk.history client (.text second.id))
  say ("History of " ++ short second.id ++ ": root=" ++ short history.root ++ " latest=" ++
    short history.latest ++ " currentIndex=" ++ toString history.index)
  for (item, i) in history.items.zipIdx do
    tellBooking item (if history.index = i then "  <- requested" else "")
  say "Trying to cancel the superseded booking:"
  let _ ← act (desk.cancel client (.text first.id) .null)

def playClocks (desk : Desk) : Story Unit := do
  seed desk sundayNight
  for (label, day) in [("Sunday before spring-forward", "2026-03-22"),
      ("Spring-forward Sunday (02:00-03:00 does not exist)", "2026-03-29"),
      ("Fall-back Sunday (02:00-03:00 happens twice)", "2026-10-25")] do
    say (label ++ ", " ++ day ++ ":")
    tellSlots (← slotsOn desk day) 6

def play (desk : Desk) : Scenario → Story Unit
  | .slots => playSlots desk
  | .reschedule => playReschedule desk
  | .dst => playClocks desk

/-! ## Telling a scenario -/

/-- The first of March 2026, at which the clock stands. -/
def now : Instant :=
  ⟨739675 * Micros.day, by decide⟩

/-- A line across the page. -/
def rule : String := styled .bold (String.ofList (List.replicate 60 '='))

def heading (scenario : Scenario) : List String :=
  ["", rule, styled .bold ("  SLOTBOOK - Scenario: " ++ scenario.name),
    styled .bold ("  Clock pinned at " ++ now.document), rule]

def ending (scenario : Scenario) : List String :=
  [rule, styled .bold ("  Scenario '" ++ scenario.name ++ "' complete."), rule]

/-- The lines of a scenario in a fresh world. A failure that callers are to
expect is told as a line of its own; another one ends the program. -/
def tell (desk : Desk) (scenario : Scenario) : Except Failure (List String) :=
  let story := Action.within (some ("demo-" ++ scenario.name)) <|
    ExceptT.lift ((play desk scenario).run.run [])
  match ((World.run story).run { clock := now }).1 with
  | .ok (.ok _, lines) => .ok (heading scenario ++ lines ++ ending scenario)
  | .ok (.error why, lines) =>
    match why.kind? with
    | some kind =>
      let told := styled .red ("[" ++ kind.code ++ "] " ++ why.message)
      .ok (heading scenario ++ lines ++ [told] ++ ending scenario)
    | none => .error why
  | .error why => .error why

/-- The line about a scenario that is none. -/
def unknown (name : String) : String := styled .red ("Unknown scenario: " ++ name)

/-- The lines of the scenario with the given name. -/
def tellNamed (desk : Desk) (name : String) : Except Failure (List String) :=
  match Scenario.ofName? name with
  | some scenario => tell desk scenario
  | none => .ok [unknown name]

/-! ## The command line -/

/-- What the arguments ask for. A scenario that is given as two hyphens is
none, since these only part options from the rest. -/
inductive Command
  | play (scenario : Option Scenario)
  | help
  | misuse
deriving DecidableEq, Repr

namespace Command

/-- An argument is the start of an option's name, or all of it. -/
def abbreviates (option arg : String) : Bool := 2 < arg.length && option.startsWith arg

/-- An option that starts with two hyphens and goes on with an equals sign
could be any of them. -/
def isAmbiguous (arg : String) : Bool := arg.startsWith "--="

/-- What one argument is. -/
inductive Argument
  | scenario
  | scenarioIs (value : String)
  | help
  /-- An option for help that is given a value. -/
  | helpIs
  /-- No further options follow. -/
  | stop
  | other
deriving DecidableEq, Repr

/-- What the characters after the short option for help are: the same option
again, any number of times. The first one may follow an equals sign. -/
def ofShort (rest : List Char) : Argument :=
  let again := if rest.head? = some '=' then rest.drop 1 else rest
  if rest = ['='] ∨ !again.all (· == 'h') then .helpIs else .help

def Argument.ofText (arg : String) : Argument :=
  let (option, value) := arg.toList.span (· ≠ '=')
  let option := String.ofList option
  if arg = "--" then .stop
  else if abbreviates "--scenario" option then
    match value with
    | [] => .scenario
    | _ :: value => .scenarioIs (String.ofList value)
  else if abbreviates "--help" option then if value.isEmpty then .help else .helpIs
  else
    match arg.toList with
    | '-' :: 'h' :: rest => ofShort rest
    | _ => .other

/-- The scenario that is given by a name, which has to be one of them. -/
def chosen? (name : String) : Option (Option Scenario) :=
  if name = "--" then some none else (Scenario.ofName? name).map some

/-- Reads the arguments from left to right. Of several scenarios the last one
counts; a wrong one ends the reading, and so does help. -/
def read (scenario : Option Scenario) (leftOver : Bool) : List String → Command
  | [] => if leftOver then .misuse else .play scenario
  | arg :: rest =>
    match Argument.ofText arg, rest with
    | .scenario, value :: rest =>
      match Scenario.ofName? value with
      | some scenario => read (some scenario) leftOver rest
      | none => .misuse
    | .scenarioIs value, rest =>
      match chosen? value with
      | some scenario => read scenario leftOver rest
      | none => .misuse
    | .help, _ => .help
    | .scenario, [] | .helpIs, _ | .stop, _ => .misuse
    | .other, rest => read scenario true rest

/-- What the arguments ask for: a scenario, the one about slots by default. -/
def ofArguments (args : List String) : Command :=
  if (args.takeWhile (· ≠ "--")).any isAmbiguous then .misuse else read (some .slots) false args

end Command

/-- The line that names the service. -/
def serviceLine (s : Settings) : String := styled .dim ("Service: " ++ s.serviceName)

/-- All lines of a scenario as the command line prints them. No scenario is
shown as an empty list. -/
def lines (s : Settings) (scenario : Option Scenario) : Except Failure (List String) := do
  let told ← match scenario with
    | some scenario => tell (Desk.ofSettings s) scenario
    | none => .ok [unknown "[]"]
  return serviceLine s :: told

end Appointments.Demo
