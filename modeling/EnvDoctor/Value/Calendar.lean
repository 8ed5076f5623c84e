import EnvDoctor.Text.Digit

/-!
# Dates and times

The calendar values of configuration files, their validity and their written forms.
-/

namespace EnvDoctor

structure Date where
  year : Nat
  month : Nat
  day : Nat
  deriving DecidableEq, Repr

structure Clock where
  hour : Nat
  minute : Nat
  second : Nat
  microsecond : Nat
  deriving DecidableEq, Repr

/-- A date and a time of day, at a fixed distance from universal time if one is given, counted in
seconds. -/
structure Moment where
  date : Date
  clock : Clock
  offset : Option Int
  deriving DecidableEq, Repr

def isLeapYear (year : Nat) : Bool :=
  year % 4 == 0 && (year % 100 != 0 || year % 400 == 0)

def daysInMonth (year month : Nat) : Nat :=
  match month with
  | 2 => if isLeapYear year then 29 else 28
  | 4 | 6 | 9 | 11 => 30
  | _ => 31

/-- What keeps a date or a time of day from existing. The distance from universal time is given in
seconds. -/
inductive CalendarFault where
  | year (n : Nat)
  | month
  | day
  | hour
  | minute
  | second
  | microsecond
  | offset (seconds : Int)
  deriving DecidableEq, Repr

/-- The first thing that is wrong with a date. The years are those from 1 to 9999. -/
def Date.fault? (d : Date) : Option CalendarFault :=
  if d.year = 0 ∨ 9999 < d.year then some (.year d.year)
  else if d.month = 0 ∨ 12 < d.month then some .month
  else if d.day = 0 ∨ daysInMonth d.year d.month < d.day then some .day
  else none

/-- The first thing that is wrong with a time of day. There are no leap seconds. -/
def Clock.fault? (c : Clock) : Option CalendarFault :=
  if 24 ≤ c.hour then some .hour
  else if 60 ≤ c.minute then some .minute
  else if 60 ≤ c.second then some .second
  else if 1000000 ≤ c.microsecond then some .microsecond
  else none

/-- A distance from universal time is less than a day. -/
def offsetFault? (seconds : Int) : Option CalendarFault :=
  if 86400 ≤ seconds.natAbs then some (.offset seconds) else none

/-- The first thing that is wrong with a moment; its distance from universal time is looked at
first. -/
def Moment.fault? (m : Moment) : Option CalendarFault :=
  ((m.offset.bind offsetFault?).or m.date.fault?).or m.clock.fault?

def Date.valid (d : Date) : Bool :=
  d.fault?.isNone

def Moment.valid (m : Moment) : Bool :=
  m.fault?.isNone

/-- The number of a day, counted from the first day of the year 1. -/
def Date.ordinal (d : Date) : Nat :=
  let y := d.year - 1
  let before := (List.range (d.month - 1)).foldl (fun days m => days + daysInMonth d.year (m + 1)) 0
  365 * y + y / 4 - y / 100 + y / 400 + before + d.day

def Moment.seconds (m : Moment) (offset : Int) : Int :=
  (m.date.ordinal * 86400 + m.clock.hour * 3600 + m.clock.minute * 60 + m.clock.second : Nat) -
    offset

/-- Two moments are the same. Those that tell their distance from universal time are compared by
the instants they mean, and differ from all others. -/
def Moment.same (m n : Moment) : Bool :=
  match m.offset, n.offset with
  | none, none => m == n
  | some a, some b => m.seconds a == n.seconds b && m.clock.microsecond == n.clock.microsecond
  | _, _ => false

def zeroPadded (width n : Nat) : String :=
  let ds := Text.decimalDigits n
  String.ofList (List.replicate (width - ds.length) '0' ++ ds)

def Date.display (d : Date) : String :=
  zeroPadded 4 d.year ++ "-" ++ zeroPadded 2 d.month ++ "-" ++ zeroPadded 2 d.day

def Clock.display (c : Clock) : String :=
  let fraction := if c.microsecond = 0 then "" else "." ++ zeroPadded 6 c.microsecond
  zeroPadded 2 c.hour ++ ":" ++ zeroPadded 2 c.minute ++ ":" ++ zeroPadded 2 c.second ++ fraction

/-- A distance from universal time with its sign; seconds are shown if there are any. -/
def displayOffset (seconds : Int) : String :=
  let n := seconds.natAbs
  let rest := if n % 60 = 0 then "" else ":" ++ zeroPadded 2 (n % 60)
  (if seconds < 0 then "-" else "+") ++ zeroPadded 2 (n / 3600) ++ ":" ++
    zeroPadded 2 (n / 60 % 60) ++ rest

def Moment.display (m : Moment) : String :=
  m.date.display ++ " " ++ m.clock.display ++ (m.offset.map displayOffset).getD ""

def commaSeparated (ns : List Nat) : String :=
  ", ".intercalate (ns.map toString)

/-- The arguments of a time of day: seconds and microseconds are left out if nothing follows. -/
def Clock.arguments (c : Clock) : List Nat :=
  [c.hour, c.minute] ++
    (if c.microsecond ≠ 0 then [c.second, c.microsecond]
     else if c.second ≠ 0 then [c.second] else [])

def Date.arguments (d : Date) : List Nat :=
  [d.year, d.month, d.day]

def Date.literal (d : Date) : String :=
  "datetime.date(" ++ commaSeparated d.arguments ++ ")"

def Clock.literal (c : Clock) : String :=
  "datetime.time(" ++ commaSeparated c.arguments ++ ")"

def literalSpan (seconds : Int) : String :=
  let days := Int.fdiv seconds 86400
  let rest := Int.fmod seconds 86400
  let parts :=
    (if days = 0 then [] else ["days=" ++ toString days]) ++
    (if rest = 0 then [] else ["seconds=" ++ toString rest])
  "datetime.timedelta(" ++ (if parts.isEmpty then "0" else ", ".intercalate parts) ++ ")"

def literalOffset (seconds : Int) : String :=
  if seconds = 0 then "datetime.timezone.utc"
  else "datetime.timezone(" ++ literalSpan seconds ++ ")"

def CalendarFault.message : CalendarFault → String
  | year n => "year " ++ toString n ++ " is out of range"
  | month => "month must be in 1..12"
  | day => "day is out of range for month"
  | hour => "hour must be in 0..23"
  | minute => "minute must be in 0..59"
  | second => "second must be in 0..59"
  | microsecond => "microsecond must be in 0..999999"
  | offset seconds =>
    "offset must be a timedelta strictly between -timedelta(hours=24) and timedelta(hours=24), " ++
      "not " ++ literalSpan seconds ++ "."

def Moment.literal (m : Moment) : String :=
  let zone := match m.offset with
    | some seconds => ", tzinfo=" ++ literalOffset seconds
    | none => ""
  "datetime.datetime(" ++ commaSeparated (m.date.arguments ++ m.clock.arguments) ++ zone ++ ")"

end EnvDoctor
