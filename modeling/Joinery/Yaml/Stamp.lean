import Joinery.Misuse
import Joinery.Text.Digit

/-!
# Dates and times

A stamp is a day, alone or with a time of the day, which may be given ahead of or behind universal
time. It is read from the text of a YAML document, and there are three texts of it: what messages
quote, what they show, and what a document holds, which is the same as what is shown.
-/
namespace Joinery.Yaml

/-- A time of the day. -/
structure Clock where
  hour : Nat
  minute : Nat
  second : Nat
  microsecond : Nat
  /-- The minutes ahead of universal time, if they are known. -/
  ahead : Option Int
  deriving DecidableEq, Repr

structure Stamp where
  year : Nat
  month : Nat
  day : Nat
  clock : Option Clock := none
  deriving DecidableEq, Repr

namespace Stamp

/-! ### Validity -/

def isLeap (year : Nat) : Bool := year % 4 = 0 && (year % 100 ≠ 0 || year % 400 = 0)

def daysIn (year month : Nat) : Nat :=
  if month = 2 then if isLeap year then 29 else 28
  else if [4, 6, 9, 11].contains month then 30
  else 31

/-- Whether there is such a day in the years from 1 to 9999. -/
def isDay (year month day : Nat) : Bool :=
  0 < year && year < 10000 && 0 < month && month ≤ 12 && 0 < day && day ≤ daysIn year month

/-- Whether there is such a time, less than a day away from universal time. -/
def isTime (c : Clock) : Bool :=
  c.hour < 24 && c.minute < 60 && c.second < 60 && c.ahead.all fun minutes => minutes.natAbs < 1440

def isValid (s : Stamp) : Bool := isDay s.year s.month s.day && s.clock.all isTime

/-! ### Reading -/

def isDigit (c : Char) : Bool := '0' ≤ c && c ≤ '9'

def isBlank (c : Char) : Bool := c == ' ' || c == '\t'

def value (digits : List Char) : Nat := (Text.digitsValue? digits).getD 0

/-- A number of at least and at most so many digits at the front. -/
def number? (least most : Nat) (cs : List Char) : Option (Nat × List Char) :=
  let digits := (cs.takeWhile isDigit).take most
  if digits.length < least then none else some (value digits, cs.drop digits.length)

/-- What follows a character. -/
def after? (c : Char) : List Char → Option (List Char)
  | d :: rest => if c = d then some rest else none
  | [] => none

/-- A number behind a character. -/
def numberAfter? (c : Char) (least most : Nat) (cs : List Char) : Option (Nat × List Char) := do
  number? least most (← after? c cs)

/-- How far ahead of universal time a whole text says to be; nothing when it is empty. -/
def zone? (cs : List Char) : Option (Option Int) :=
  match cs.dropWhile isBlank with
  | [] => if cs.isEmpty then some none else none
  | ['Z'] => some (some 0)
  | sign :: rest => do
    if !(sign = '+' || sign = '-') then none
    let (hours, rest) ← number? 1 2 rest
    let (minutes, rest) ← if rest.isEmpty then some (0, rest) else numberAfter? ':' 2 2 rest
    if !rest.isEmpty then none
    let size : Int := 60 * hours + minutes
    return some (if sign = '-' then -size else size)

/-- A fraction of a second in microseconds, further digits cut off. -/
def microseconds (digits : List Char) : Nat :=
  let digits := digits.take 6
  value digits * 10 ^ (6 - digits.length)

/-- The time that a whole text tells. -/
def clock? (cs : List Char) : Option Clock := do
  let (hour, rest) ← number? 1 2 cs
  let (minute, rest) ← numberAfter? ':' 2 2 rest
  let (second, rest) ← numberAfter? ':' 2 2 rest
  let fraction := (after? '.' rest).map (·.takeWhile isDigit)
  let rest := match fraction with
    | some digits => rest.drop (digits.length + 1)
    | none => rest
  return ⟨hour, minute, second, microseconds (fraction.getD []), ← zone? rest⟩

/-- What separates a day from a time, and the time behind it. -/
def clockBehind? (cs : List Char) : Option Clock :=
  match cs with
  | 'T' :: rest | 't' :: rest => clock? rest
  | c :: _ => if isBlank c then clock? (cs.dropWhile isBlank) else none
  | [] => none

/-- The stamp that a line is, though there may be no such day or time. -/
def ofLine? (cs : List Char) : Option Stamp := do
  let (year, rest) ← number? 4 4 cs
  let (month, rest) ← numberAfter? '-' 1 2 rest
  let (day, rest) ← numberAfter? '-' 1 2 rest
  if rest.isEmpty then return { year, month, day }
  return { year, month, day, clock := some (← clockBehind? rest) }

/-- Whether a line is a stamp without being said to be one: a day alone needs all its digits. -/
def isPlain (cs : List Char) : Bool :=
  match ofLine? cs with
  | some stamp => stamp.clock.isSome || cs.length = 10
  | none => false

/-! ### Texts -/

/-- A number with zeros in front. -/
def padded (width n : Nat) : String :=
  let digits := Nat.toDigits 10 n
  String.ofList (List.replicate (width - digits.length) '0' ++ digits)

def shownZone (ahead : Int) : String :=
  let sign := if ahead < 0 then "-" else "+"
  s!"{sign}{padded 2 (ahead.natAbs / 60)}:{padded 2 (ahead.natAbs % 60)}"

def shownClock (c : Clock) : String :=
  let fraction := if c.microsecond = 0 then "" else s!".{padded 6 c.microsecond}"
  let zone := (c.ahead.map shownZone).getD ""
  s!"{padded 2 c.hour}:{padded 2 c.minute}:{padded 2 c.second}{fraction}{zone}"

/-- A stamp as messages show it. -/
def shown (s : Stamp) : String :=
  let day := s!"{padded 4 s.year}-{padded 2 s.month}-{padded 2 s.day}"
  match s.clock with
  | some c => s!"{day} {shownClock c}"
  | none => day

/-- A distance from universal time as messages quote it. -/
def quotedZone (ahead : Int) : String :=
  if ahead = 0 then "datetime.timezone.utc"
  else
    let days := if ahead < 0 then "days=-1, " else ""
    let seconds := (if ahead < 0 then ahead + 1440 else ahead) * 60
    s!"datetime.timezone(datetime.timedelta({days}seconds={seconds}))"

/-- A stamp as messages quote it. -/
def quoted (s : Stamp) : String :=
  let numbers (ns : List Nat) := ", ".intercalate (ns.map toString)
  match s.clock with
  | none => s!"datetime.date({numbers [s.year, s.month, s.day]})"
  | some c =>
    let parts :=
      if c.microsecond ≠ 0 then [c.second, c.microsecond]
      else if c.second ≠ 0 then [c.second]
      else []
    let zone := (c.ahead.map fun ahead => s!", tzinfo={quotedZone ahead}").getD ""
    s!"datetime.datetime({numbers ([s.year, s.month, s.day, c.hour, c.minute] ++ parts)}{zone})"

end Stamp

end Joinery.Yaml
