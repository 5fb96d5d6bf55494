import CapsuleFlow.Text.Quote

/-!
# UTC timestamps

A timestamp is a UTC instant with millisecond precision, written
`YYYY-MM-DDTHH:MM:SS.mmmZ`. It reads from RFC 3339 text:

    date-time = YYYY "-" MM "-" DD ("T" / "t" / " ") hh ":" mm ":" ss ["." 1*DIGIT] offset
    offset    = "Z" / "z" / ("+" / "-" / "−") hh ":" mm

Text shorter than `YYYY-MM-DDTHH:MM:SS` ends too soon, whatever it holds. Otherwise the
UTF-8 bytes are read in stages, and the first problem met is the error: the date's
digits and dashes (a wrong character is invalid), then the date itself (a month outside
1–12 or a day its month lacks is out of range), then the separator, the time's digits
and colons, then the fraction (a wrong character is invalid, running out of text is
premature), then the time's ranges (hour 0–23, minute 0–59, second 0–60), then the
offset (likewise, and offset minutes of 60 or more are out of range). Text left over
is trailing, and only then is an offset of 24 hours or more out of range. The instant
is moved to UTC and cut down to milliseconds.

Second 60 is a leap second: it is kept, as the second `59` of its minute with a
nanosecond count of a second or more, and written back as `60`. Years above 9999 are
written with a `+` and below 0 with a `-`.
-/

namespace CapsuleFlow

/-- Why a timestamp does not read. -/
inductive TimeFault where
  | outOfRange | invalid | tooShort | tooLong
  deriving DecidableEq, Repr, Inhabited

def TimeFault.message : TimeFault → String
  | .outOfRange => "input is out of range"
  | .invalid => "input contains invalid characters"
  | .tooShort => "premature end of input"
  | .tooLong => "trailing input"

/-- A UTC instant: the day counted from 1970-01-01, the second of that day, and the
nanoseconds within the second (a second or more only in a leap second). -/
structure Timestamp where
  day : Int
  second : Nat
  nano : Nat
  deriving DecidableEq, Repr, Inhabited

namespace Timestamp

def compare (a b : Timestamp) : Ordering :=
  (Ord.compare a.day b.day).then ((Ord.compare a.second b.second).then (Ord.compare a.nano b.nano))

instance : Ord Timestamp := ⟨compare⟩

end Timestamp

section Calendar

def isLeapYear (y : Int) : Bool := (y % 4 == 0 && y % 100 != 0) || y % 400 == 0

def daysInMonth (y : Int) (m : Nat) : Nat :=
  match m with
  | 2 => if isLeapYear y then 29 else 28
  | 4 | 6 | 9 | 11 => 30
  | _ => 31

/-- The day number of a date, counted from 1970-01-01 (integer division floors here). -/
def daysFromCivil (y : Int) (m d : Nat) : Int :=
  let y := if m ≤ 2 then y - 1 else y
  let era := y / 400
  let yoe := y - era * 400
  let mp : Int := if m > 2 then (m : Int) - 3 else (m : Int) + 9
  let doy := (153 * mp + 2) / 5 + (d : Int) - 1
  let doe := yoe * 365 + yoe / 4 - yoe / 100 + doy
  era * 146097 + doe - 719468

/-- The date of a day number: year, month, day. -/
def civilFromDays (z : Int) : Int × Nat × Nat :=
  let z := z + 719468
  let era := z / 146097
  let doe := z - era * 146097
  let yoe := (doe - doe / 1460 + doe / 36524 - doe / 146096) / 365
  let y := yoe + era * 400
  let doy := doe - (365 * yoe + yoe / 4 - yoe / 100)
  let mp := (5 * doy + 2) / 153
  let d := doy - (153 * mp + 2) / 5 + 1
  let m := if mp < 10 then mp + 3 else mp - 9
  ((if m ≤ 2 then y + 1 else y), m.toNat, d.toNat)

end Calendar

section Reading

abbrev TimeScan (α : Type) := Except TimeFault (α × List UInt8)

def isDigitByte (b : UInt8) : Bool := 48 ≤ b && b ≤ 57

/-- Between `least` and `most` digits as a number. Fewer bytes than `least` left is
premature; a non-digit among the first `least` is invalid. -/
def scanNumber (s : List UInt8) (least most : Nat) : TimeScan Nat :=
  if s.length < least then .error .tooShort else go s 0 0 most
where
  /-- `i` digits read so far, with value `n`. -/
  go (s : List UInt8) (i n : Nat) : Nat → TimeScan Nat
    | 0 => .ok (n, s)
    | k + 1 =>
      match s with
      | [] => .ok (n, [])
      | b :: rest =>
        if isDigitByte b then go rest (i + 1) (n * 10 + (b.toNat - 48)) k
        else if i < least then .error .invalid
        else .ok (n, s)

def scanByte (s : List UInt8) (b : UInt8) : Except TimeFault (List UInt8) :=
  match s with
  | c :: rest => if c == b then .ok rest else .error .invalid
  | [] => .error .tooShort

/-- A fraction of a second after its point: at least one digit, the first nine count,
the others are skipped. -/
def scanNanos (s : List UInt8) : Except TimeFault (Nat × List UInt8) := do
  let (v, rest) ← scanNumber s 1 9
  let consumed := s.length - rest.length
  return (v * Nat.pow 10 (9 - consumed), rest.dropWhile isDigitByte)

/-- An offset: `Z`, or a sign, two hour digits, a colon and two minute digits. Gives
the offset in seconds east of UTC. -/
def scanOffset (s : List UInt8) : Except TimeFault (Int × List UInt8) := do
  if let 90 :: rest := s then return (0, rest)
  if let 122 :: rest := s then return (0, rest)
  let (negative, s) ← match s with
    | 43 :: rest => pure (false, rest)
    | 45 :: rest => pure (true, rest)
    | 0xE2 :: 0x88 :: 0x92 :: rest => pure (true, rest)
    | _ :: _ => throw .invalid
    | [] => throw .tooShort
  let hours ← match s with
    | h1 :: h2 :: _ =>
      if isDigitByte h1 && isDigitByte h2 then pure ((h1.toNat - 48) * 10 + (h2.toNat - 48))
      else throw .invalid
    | _ => throw .tooShort
  let s ← scanByte (s.drop 2) 58
  let minutes ← match s with
    | m1 :: m2 :: _ =>
      if 48 ≤ m1 && m1 ≤ 53 && isDigitByte m2 then pure ((m1.toNat - 48) * 10 + (m2.toNat - 48))
      else if 54 ≤ m1 && m1 ≤ 57 && isDigitByte m2 then throw .outOfRange
      else throw .invalid
    | _ => throw .tooShort
  let seconds : Int := (hours * 3600 + minutes * 60 : Nat)
  return (if negative then -seconds else seconds, s.drop 2)

def maxOffset : Int := (23 * 60 + 59) * 60

/-- The length of `YYYY-MM-DDTHH:MM:SS`, the date and time before any fraction or offset. -/
def shortestLength : Nat := 19

def readInstant (text : String) : Except TimeFault Timestamp := do
  let s := text.toUTF8.toList
  if s.length < shortestLength then throw .tooShort
  let (year, s) ← scanNumber s 4 4
  let s ← scanByte s 45
  let (month, s) ← scanNumber s 2 2
  let s ← scanByte s 45
  let (day, s) ← scanNumber s 2 2
  if month < 1 || month > 12 || day < 1 || day > daysInMonth year month then throw .outOfRange
  let s ← match s with
    | b :: rest => if b == 116 || b == 84 || b == 32 then pure rest else throw .invalid
    | [] => throw .tooShort
  let (hour, s) ← scanNumber s 2 2
  let s ← scanByte s 58
  let (minute, s) ← scanNumber s 2 2
  let s ← scanByte s 58
  let (second, s) ← scanNumber s 2 2
  let (nano, s) ← match s with
    | 46 :: rest => scanNanos rest
    | _ => pure (0, s)
  if hour > 23 || minute > 59 || second > 60 then throw .outOfRange
  let (offset, s) ← scanOffset s
  if !s.isEmpty then throw .tooLong
  if offset < -maxOffset || offset > maxOffset then throw .outOfRange
  let (second, nano) := if second == 60 then (59, nano + 1000000000) else (second, nano)
  let local_ : Int := daysFromCivil year month day * 86400 + ((hour * 60 + minute) * 60 + second : Nat)
  let utc := local_ - offset
  return { day := utc / 86400, second := (utc % 86400).toNat, nano := nano }

end Reading

namespace Timestamp

def truncate (t : Timestamp) : Timestamp := { t with nano := t.nano / 1000000 * 1000000 }

/-- Reads RFC 3339 text as a timestamp: moved to UTC and cut to milliseconds. -/
def parse (text : String) : Except TimeFault Timestamp := (readInstant text).map truncate

/-- The message of text that does not read as a timestamp. -/
def errorMessage (text : String) (f : TimeFault) : String :=
  s!"invalid timestamp: {Text.quoted text}: {f.message}"

/-- A number written with at least `width` digits. -/
def padded (n width : Nat) : String :=
  let s := toString n
  String.ofList (List.replicate (width - s.length) '0') ++ s

def yearText (y : Int) : String :=
  if y < 0 then "-" ++ padded y.natAbs 4
  else if y > 9999 then "+" ++ padded y.toNat 4
  else padded y.toNat 4

/-- `YYYY-MM-DDTHH:MM:SS.mmmZ`; a leap second shows as second 60. -/
def iso (t : Timestamp) : String :=
  let (y, m, d) := civilFromDays t.day
  let hh := t.second / 3600
  let mm := t.second % 3600 / 60
  let ss := t.second % 60 + t.nano / 1000000000
  let ms := t.nano % 1000000000 / 1000000
  s!"{yearText y}-{padded m 2}-{padded d 2}T{padded hh 2}:{padded mm 2}:{padded ss 2}.{padded ms 3}Z"

end Timestamp

end CapsuleFlow
