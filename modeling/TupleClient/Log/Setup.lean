import TupleClient.Log.Event
import TupleClient.Settings.Basic

/-!
# Setting up the log

The log has a shape and a least level; it may also note when spans are entered and left. A level is
given by its name, in any case, or by a number from one, for errors alone, to five, for everything.

## Main definitions

* `LogSetup` — what is logged, and in which shape
* `LogSetup.ofSettings` — the set-up that settings ask for
* `LogThreshold.read?` — a threshold given from outside, which may also be that nothing is logged
* `LogSetup.lines` — the lines of a log in the shape of data
-/

namespace TupleClient

namespace Level

/-- The value of decimal digits with an optional plus. -/
def number? (s : String) : Option Nat :=
  let digits := match s.toList with
    | '+' :: rest => rest
    | cs => cs
  if digits.isEmpty || !digits.all Char.isDigit then none
  else some (digits.foldl (fun n c => 10 * n + (c.toNat - '0'.toNat)) 0)

/-- The level with a number. -/
def ofNumber? : Nat → Option Level
  | 1 => some .error
  | 2 => some .warn
  | 3 => some .info
  | 4 => some .debug
  | 5 => some .trace
  | _ => none

/-- The level with a name, in any case. -/
def ofName? (s : String) : Option Level :=
  all.find? fun level => Text.lower level.name == Text.lower s

/-- The level that a text stands for. -/
def read? (s : String) : Option Level :=
  ((number? s).bind ofNumber?).or (ofName? s)

end Level

/-- The least level shown, or nothing at all. -/
inductive LogThreshold where
  | atLeast (level : Level)
  | off
deriving DecidableEq

namespace LogThreshold

/-- The threshold that a text stands for. No text stands for errors alone. -/
def read? (s : String) : Option LogThreshold :=
  if s.isEmpty then some (.atLeast .error)
  else if Text.lower s = "off" ∨ Level.number? s = some 0 then some .off
  else (Level.read? s).map atLeast

/-- Whether events of a level are shown. -/
def shows (t : LogThreshold) (level : Level) : Bool :=
  match t with
  | atLeast least => level.shownAt least
  | off => false

end LogThreshold

/-- What is logged, and in which shape. -/
structure LogSetup where
  format : LogFormat := .pretty
  level : Level := .info
  /-- Whether entering and leaving a span is logged too. -/
  spanEvents : Bool := false
deriving DecidableEq, Inhabited

namespace LogSetup

/-- The set-up that settings ask for. -/
def ofSettings (s : LoggingSettings) : Except SettingsError LogSetup :=
  match Level.read? s.level with
  | some level => .ok { format := s.format, level := level }
  | none => .error (.notALevel s.level)

/-- The data of a span. -/
def encodeSpan (s : Span) : Json :=
  .obj [("name", .str "invoke"), ("operation", .str s.operation), ("path", .str s.path)]

/-- The fields of a line that tell its span, if the span is shown and known. -/
def spanFields (current : Option Span) (spans : List Span) : List (String × Json) :=
  match current with
  | some s => [("span", encodeSpan s), ("spans", .arr (spans.map encodeSpan))]
  | none => []

/-- A line of the log. -/
def line (level : Level) (component : Component) (message : String)
    (values : List (String × Json)) (spanPart : List (String × Json)) : Json :=
  Json.object ([("level", .str level.name), ("target", .str component.target),
    ("fields", Json.object (("message", .str message) :: values))] ++ spanPart)

/-- The line that notes that a span is entered or left. -/
def spanLine (message : String) (current : Span) (spans : List Span) : Json :=
  line .info .service message [] (spanFields (some current) spans)

/-- The lines of one entry. Spans exist only where their level is shown. -/
def linesOf (threshold : LogThreshold) (spanEvents : Bool) : Trace → List Json
  | .event e =>
    if threshold.shows e.level then
      let span := if threshold.shows .info then e.span else none
      [line e.level e.component e.message e.values (spanFields span span.toList)]
    else []
  | .entered span =>
    if spanEvents && threshold.shows .info then [spanLine "enter" span [span]] else []
  | .left span =>
    if spanEvents && threshold.shows .info then [spanLine "exit" span []] else []

/-- The lines of a log in the shape of data. -/
def lines (threshold : LogThreshold) (spanEvents : Bool) (entries : List Trace) : List Json :=
  entries.flatMap (linesOf threshold spanEvents)

end LogSetup

end TupleClient
