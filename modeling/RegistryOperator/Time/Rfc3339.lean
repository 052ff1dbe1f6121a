import RegistryOperator.Json.Decode
import RegistryOperator.Text.Basic
import RegistryOperator.Time.Timestamp

/-! RFC 3339 text of moments. The reader also takes blanks between the parts, parts with fewer
digits, a blank between date and time, and `UTC` for the offset. -/

namespace RegistryOperator.Timestamp

open Text (isSpace skipSpace)

/-- Reads one digit or more, at most `width`. -/
def readNumber (width : Nat) (cs : List Char) : Option (Nat × List Char) :=
  let digits := (cs.take width).takeWhile Char.isDigit
  if digits.isEmpty then none
  else some (digits.foldl (fun n c => 10 * n + (c.toNat - '0'.toNat)) 0, cs.drop digits.length)

/-- Reads white space and then a number of at most two digits. -/
def readTwo (cs : List Char) : Option (Nat × List Char) := readNumber 2 (skipSpace cs)

/-- Reads a year: four digits, or any number of them after a sign. -/
def readYear (cs : List Char) : Option (Int × List Char) :=
  match skipSpace cs with
  | '-' :: cs => (readNumber cs.length cs).map fun (n, cs) => (-(n : Int), cs)
  | '+' :: cs => (readNumber cs.length cs).map fun (n, cs) => ((n : Int), cs)
  | cs => (readNumber 4 cs).map fun (n, cs) => ((n : Int), cs)

/-- Reads white space and then the character `c`. -/
def readMark (c : Char) (cs : List Char) : Option (List Char) :=
  match skipSpace cs with
  | d :: cs => if d = c then some cs else none
  | [] => none

/-- Reads the fraction of a second, in nanoseconds; digits after the ninth are dropped. -/
def readFraction : List Char → Option (Nat × List Char)
  | '.' :: cs =>
    match readNumber 9 cs with
    | some (n, rest) =>
      some (n * 10 ^ (9 - (cs.length - rest.length)), rest.dropWhile Char.isDigit)
    | none => none
  | cs => some (0, cs)

def readPair : List Char → Option (Nat × List Char)
  | a :: b :: cs =>
    if a.isDigit ∧ b.isDigit then
      some (10 * (a.toNat - '0'.toNat) + (b.toNat - '0'.toNat), cs)
    else none
  | _ => none

/-- Reads the hours and minutes of an offset, as seconds. -/
def readOffsetSize (cs : List Char) : Option (Int × List Char) := do
  let (hours, cs) ← readPair cs
  let (minutes, cs) ← readPair (cs.dropWhile fun c => c = ':' || isSpace c)
  if minutes < 60 ∧ hours < 24 then some (hours * 3600 + minutes * 60, cs) else none

/-- Reads the offset from UTC, in seconds. -/
def readOffset : List Char → Option (Int × List Char)
  | 'Z' :: cs => some (0, cs)
  | 'z' :: cs => some (0, cs)
  | '+' :: cs => readOffsetSize cs
  | '-' :: cs => (readOffsetSize cs).map fun (n, cs) => (-n, cs)
  | '\u2212' :: cs => (readOffsetSize cs).map fun (n, cs) => (-n, cs)
  | u :: t :: c :: cs =>
    if u.toUpper = 'U' ∧ t.toUpper = 'T' ∧ c.toUpper = 'C' then some (0, cs) else none
  | _ => none

def isYear (year : Int) : Bool := -262143 ≤ year && year ≤ 262142

/-- Whether a moment is on a calendar date in UTC. -/
def isDated (t : Timestamp) : Bool :=
  Calendar.daysSince1970 (-262143) 1 1 * 86400 ≤ t.seconds &&
    t.seconds < (Calendar.daysSince1970 262142 12 31 + 1) * 86400

/-- Reads a moment from the characters of its text. The date has to be in the calendar both where
the offset holds and in UTC. -/
def readChars (cs : List Char) : Option Timestamp := do
  let (year, cs) ← readYear cs
  let (month, cs) ← readTwo (← readMark '-' cs)
  let (day, cs) ← readTwo (← readMark '-' cs)
  let cs ← match cs with
    | 'T' :: cs => some cs
    | 't' :: cs => some cs
    | ' ' :: cs => some cs
    | _ => none
  let (hour, cs) ← readTwo cs
  let (minute, cs) ← readTwo (← readMark ':' cs)
  let (second, cs) ← readTwo (← readMark ':' cs)
  let (nanos, cs) ← readFraction cs
  let (offset, cs) ← readOffset (skipSpace cs)
  let t := ofCalendar ⟨year, month, day, hour, minute, second, nanos⟩ offset
  if (skipSpace cs).isEmpty ∧ isYear year ∧ 1 ≤ month ∧ month ≤ 12 ∧ 1 ≤ day ∧
      day ≤ Calendar.daysIn year month ∧ hour < 24 ∧ minute < 60 ∧ second ≤ 60 ∧ isDated t then
    some t
  else none

def ofText? (s : String) : Option Timestamp := readChars s.toList

def padded (width n : Nat) : String :=
  let digits := Nat.toDigits 10 n
  String.ofList (List.replicate (width - digits.length) '0' ++ digits)

/-- A year has four digits; outside these it has a sign. -/
def yearText (year : Int) : String :=
  if 0 ≤ year ∧ year ≤ 9999 then padded 4 year.toNat
  else (if year < 0 then "-" else "+") ++ padded 4 year.natAbs

def Calendar.text (c : Calendar) : String :=
  yearText c.year ++ "-" ++ padded 2 c.month ++ "-" ++ padded 2 c.day ++ "T" ++
    padded 2 c.hour ++ ":" ++ padded 2 c.minute ++ ":" ++ padded 2 c.second

def textSeconds (t : Timestamp) : String := Calendar.text t.calendar ++ "Z"

/-- A fraction with none, three, six or nine digits, the fewest that lose nothing. -/
def fractionText (nanos : Nat) : String :=
  if nanos = 0 then ""
  else if nanos % 10 ^ (6 : Nat) = 0 then "." ++ padded 3 (nanos / 10 ^ (6 : Nat))
  else if nanos % 10 ^ (3 : Nat) = 0 then "." ++ padded 6 (nanos / 10 ^ (3 : Nat))
  else "." ++ padded 9 nanos

def text (t : Timestamp) : String :=
  let c := t.calendar
  Calendar.text c ++ fractionText c.nanos ++ "Z"

def decode : Decoder Timestamp := Decode.via Decode.string ofText?

end RegistryOperator.Timestamp
