import StoryGraph.Number.Layout
import StoryGraph.Shape.Field

/-!
# Timestamps

The time at which a graph was compiled: a date and a time of day, with the
offset of its time zone if it has one.  Timestamps are read from texts of the
calendar form and from numbers of seconds or milliseconds since the start of
1970.
-/

namespace StoryGraph

def isLeapYear (year : Nat) : Bool :=
  year % 4 == 0 && (year % 100 != 0 || year % 400 == 0)

def daysInMonth (year month : Nat) : Nat :=
  if month = 2 then (if isLeapYear year then 29 else 28)
  else if [4, 6, 9, 11].contains month then 30
  else 31

/-- A date, a time of day and a zone, in any numbers. -/
structure Moment where
  year : Nat
  month : Nat
  day : Nat
  hour : Nat
  minute : Nat
  second : Nat
  microsecond : Nat
  /-- Minutes by which the zone is ahead of universal time. -/
  offset : Option Int
  deriving DecidableEq

namespace Moment

/-- Every part but the year is in its range. -/
def hasParts (moment : Moment) : Bool :=
  1 ≤ moment.month && moment.month ≤ 12 &&
    1 ≤ moment.day && moment.day ≤ daysInMonth moment.year moment.month &&
    moment.hour < 24 && moment.minute < 60 && moment.second < 60 &&
    moment.microsecond < 1000000 &&
      (moment.offset.all fun offset => offset.natAbs < 1440)

/-- Every part is in its range; there is no year zero. -/
def isValid (moment : Moment) : Bool :=
  moment.hasParts && 1 ≤ moment.year && moment.year ≤ 9999

end Moment

structure Timestamp where
  moment : Moment
  valid : moment.isValid = true
  deriving DecidableEq

namespace Timestamp

def ofMoment? (moment : Moment) : Option Timestamp :=
  if hvalid : moment.isValid = true then some ⟨moment, hvalid⟩ else none

/-- A number of exactly two digits. -/
def twoDigits? : List Char → Option (Nat × List Char)
  | tens :: units :: rest =>
    match Text.latinDigitValue? tens, Text.latinDigitValue? units with
    | some tens, some units => some (10 * tens + units, rest)
    | _, _ => none
  | _ => none

/-- Two digits after a given mark. -/
def markedDigits? (mark : Char) : List Char → Option (Nat × List Char)
  | first :: rest => if first == mark then twoDigits? rest else none
  | [] => none

/-- Microseconds of a fraction of a second; further digits are cut off. -/
def microseconds (digits : List Char) : Nat :=
  let used := digits.take 6
  Numeral.ofDigits ((used ++ List.replicate (6 - used.length) '0').map
    fun digit => digit.toNat - 0x30)

/-- Seconds with an optional fraction, if a colon announces them. -/
def readSeconds? : List Char → Option ((Nat × Nat) × List Char)
  | ':' :: rest =>
    (twoDigits? rest).bind fun (second, after) =>
      match after with
      | mark :: fraction =>
        if mark == '.' || mark == ',' then
          let digits := fraction.takeWhile Char.isDigit
          if digits.isEmpty then none
          else some ((second, microseconds digits),
            fraction.dropWhile Char.isDigit)
        else some ((second, 0), after)
      | [] => some ((second, 0), [])
  | rest => some ((0, 0), rest)

/-- Whether the zone behind a sign is behind universal time; hyphen and minus
sign both say so. -/
def readZoneSign? (sign : Char) : Option Bool :=
  if sign == '+' then some false
  else if sign == '-' || sign == '−' then some true
  else none

/-- The offset of a zone that fills the rest of the text. -/
def readZone? : List Char → Option (Option Int)
  | [] => some none
  | ['Z'] => some (some 0)
  | ['z'] => some (some 0)
  | sign :: rest =>
    (readZoneSign? sign).bind fun behind =>
      (twoDigits? rest).bind fun (hours, after) =>
        let minutes? := match after with
          | ':' :: rest => twoDigits? rest
          | rest => twoDigits? rest
        match minutes? with
        | some (minutes, []) =>
          if hours < 24 && minutes < 60 then
            some (some (Numeral.withSign behind (60 * hours + minutes)))
          else none
        | _ => none

/-- Time of day and zone, after the mark that separates them from the date. -/
def readClock? (characters : List Char) :
    Option ((Nat × Nat) × (Nat × Nat) × Option Int) :=
  (twoDigits? characters).bind fun (hour, afterHour) =>
    (markedDigits? ':' afterHour).bind fun (minute, afterMinute) =>
      (readSeconds? afterMinute).bind fun (seconds, afterSeconds) =>
        (readZone? afterSeconds).map fun zone => ((hour, minute), seconds, zone)

/-- A text of the calendar form.  A date alone is its midnight without zone. -/
def readCalendar? (characters : List Char) : Option Moment :=
  (twoDigits? characters).bind fun (century, afterCentury) =>
    (twoDigits? afterCentury).bind fun (yearOfCentury, afterYear) =>
      (markedDigits? '-' afterYear).bind fun (month, afterMonth) =>
        (markedDigits? '-' afterMonth).bind fun (day, afterDay) =>
          let year := 100 * century + yearOfCentury
          let found : Option Moment := match afterDay with
            | [] => some ⟨year, month, day, 0, 0, 0, 0, none⟩
            | mark :: clock =>
              if mark == 'T' || mark == 't' || mark == ' ' || mark == '_' then
                (readClock? clock).map
                  fun ((hour, minute), (second, microsecond), offset) =>
                    ⟨year, month, day, hour, minute, second, microsecond,
                      offset⟩
              else none
          found.filter Moment.hasParts

/-- Numbers above this magnitude count milliseconds. -/
def secondsBound : Int := 20000000000

/-- The first second of the year zero. -/
def earliest : Int := -62167219200

/-- The last second of the year 9999. -/
def latest : Int := 253402300799

/-- Year, month and day of a number of days since the start of 1970. -/
def civil (days : Int) : Int × Nat × Nat :=
  let shifted := days + 719468
  let era := shifted.fdiv 146097
  let dayOfEra := (shifted - era * 146097).toNat
  let yearOfEra :=
    (dayOfEra - dayOfEra / 1460 + dayOfEra / 36524 - dayOfEra / 146096) / 365
  let dayOfYear :=
    dayOfEra - (365 * yearOfEra + yearOfEra / 4 - yearOfEra / 100)
  let march := (5 * dayOfYear + 2) / 153
  let day := dayOfYear - (153 * march + 2) / 5 + 1
  let month := if march < 10 then march + 3 else march - 9
  let year : Int := yearOfEra + era * 400
  (if month ≤ 2 then year + 1 else year, month, day)

/-- The universal time of a second and further microseconds, if it lies in the
years of four digits. -/
def ofSecond? (second : Int) (microsecond : Nat) : Option Moment :=
  let second := second + microsecond / 1000000
  if second < earliest || latest < second then none
  else
    let (year, month, day) := civil (second.fdiv 86400)
    let rest := (second.fmod 86400).toNat
    some ⟨year.toNat, month, day, rest / 3600, rest / 60 % 60, rest % 60,
      microsecond % 1000000, some 0⟩

/-- The universal time of a number of milliseconds and further microseconds. -/
def ofMillisecond? (millisecond : Int) (microsecond : Nat) : Option Moment :=
  ofSecond? (millisecond.fdiv 1000)
    ((millisecond.fmod 1000).toNat * 1000 + microsecond)

/-- The universal time of a number of seconds or, when it is large, of
milliseconds. -/
def ofInteger? (instant : Int) : Option Moment :=
  if -secondsBound ≤ instant && instant ≤ secondsBound then ofSecond? instant 0
  else ofMillisecond? instant 0

/-- Nearest integer to a rational that is not negative; a half goes up. -/
def roundHalfUp (value : Rat) : Nat := ((value + 1 / 2).floor).toNat

/-- A rational as the nearest floating point number holds it. -/
def nearest (value : Rat) : Rat := ((Binary64.ofRat value).toRat?).getD 0

/-- The part of a number above its floor, in units of which a whole has the
given number.  Both steps round to floating point numbers. -/
def fractionIn (units : Nat) (value : Rat) : Nat :=
  roundHalfUp (nearest (nearest (value - value.floor) * units))

/-- The universal time of a floating point number of seconds or, when it is
large, of milliseconds. -/
def ofFloat? (number : Binary64) : Option Moment :=
  number.toRat?.bind fun value =>
    if -secondsBound ≤ value && value ≤ secondsBound then
      ofSecond? value.floor (fractionIn 1000000 value)
    else ofMillisecond? value.floor (fractionIn 1000 value)

/-- A text that is a number.  One with a point is read as a floating point
number, and only there an exponent may follow. -/
def readNumber? (characters : List Char) : Option Moment :=
  let (negative, body) := Numeral.sign characters
  match Numeral.latinDigits body with
  | (digit :: digits, []) =>
    ofInteger? (Numeral.withSign negative (Numeral.ofDigits (digit :: digits)))
  | (_, '.' :: _) =>
    (Numeral.floatOf? Numeral.latinDigits characters).bind ofFloat?
  | _ => none

/-- The timestamp of a moment that was read, which may lie in the year zero. -/
def ofReading : Option Moment → Checked Timestamp
  | none => .fail .datetimeFromDateParsing
  | some moment =>
    match ofMoment? moment with
    | some timestamp => .accepted timestamp
    | none => .fail .datetimeParsing

/-- A text of the calendar form or a number. -/
def ofText (text : String) : Checked Timestamp :=
  ofReading ((readCalendar? text.toList).or (readNumber? text.toList))

/-- The timestamp of a number. -/
def ofInstant (instant : Option Moment) : Checked Timestamp :=
  match instant.bind ofMoment? with
  | some timestamp => .accepted timestamp
  | none => .fail .datetimeParsing

def check : Check Timestamp
  | .str text => ofText text
  | .int number =>
    match Binary64.ofInt? number with
    | none => .fail .datetimeType
    | some _ => ofInstant (ofInteger? number)
  | .float number => ofInstant (ofFloat? number)
  | _ => .fail .datetimeType

/-- The number with leading zeros up to a width. -/
def padded (width number : Nat) : String :=
  let digits := Nat.toDigits 10 number
  String.ofList (List.replicate (width - digits.length) '0' ++ digits)

def zoneText : Option Int → String
  | none => ""
  | some offset =>
    if offset = 0 then "Z"
    else (if offset < 0 then "-" else "+") ++
      padded 2 (offset.natAbs / 60) ++ ":" ++
      padded 2 (offset.natAbs % 60)

def toText (timestamp : Timestamp) : String :=
  let moment := timestamp.moment
  padded 4 moment.year ++ "-" ++ padded 2 moment.month ++ "-" ++
    padded 2 moment.day ++
    "T" ++ padded 2 moment.hour ++ ":" ++ padded 2 moment.minute ++ ":" ++
    padded 2 moment.second ++
    (if moment.microsecond = 0 then ""
      else "." ++ padded 6 moment.microsecond) ++
    zoneText moment.offset

end Timestamp

end StoryGraph
