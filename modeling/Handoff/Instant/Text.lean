import Handoff.Instant
import Handoff.Text.Blank
import Handoff.Text.Integer
/-!
# The text of an instant

Instants are written `2023-11-14T22:13:20.123Z`: the fraction has no, three, six or nine digits,
the fewest that are exact, a leap second is second 60, and a year outside `0 .. 9999` bears its
sign. Reading is more liberal: it accepts an offset from UTC in place of `Z`, a space or a small
letter in place of `T`, blank space between the parts, and fractions of any length.

* `Instant.text`: the written form.
* `Instant.read?`: the instant that a text denotes, if any.
-/

namespace Handoff

open Text Calendar

namespace Instant

/-! ## Writing -/

/-- The decimal digits of a number, with zeros in front to reach a width. -/
def padded (width n : Nat) : List Char :=
  let digits := Nat.toDigits 10 n
  List.replicate (width - digits.length) '0' ++ digits

/-- Years of four digits stand as they are, all others bear their sign. -/
def yearChars (year : Int) : List Char :=
  if year < 0 then '-' :: padded 4 year.natAbs
  else if year ≤ 9999 then padded 4 year.natAbs
  else '+' :: padded 4 year.natAbs

/-- The fraction of a second, in the fewest groups of three digits that are exact. -/
def fractionChars (nano : Nat) : List Char :=
  if nano = 0 then []
  else if nano % 1000000 = 0 then '.' :: padded 3 (nano / 1000000)
  else if nano % 1000 = 0 then '.' :: padded 6 (nano / 1000)
  else '.' :: padded 9 nano

/-- The characters of an instant's text. -/
def textChars (t : Instant) : List Char :=
  let date := dateOfDay t.day
  yearChars date.year ++ '-' :: padded 2 date.month ++ '-' :: padded 2 date.day ++
    'T' :: padded 2 (t.second / 3600) ++ ':' :: padded 2 (t.second / 60 % 60) ++
    ':' :: padded 2 (t.second % 60 + t.nano / 1000000000) ++
    fractionChars (t.nano % 1000000000) ++ ['Z']

/-- The text of an instant. -/
def text (t : Instant) : String :=
  String.ofList t.textChars

/-! ## Reading -/

/-- The value of a run of digits. -/
def digitsValue (ds : List Char) : Nat :=
  ds.foldl (fun acc c => acc * 10 + (c.toNat - 48)) 0

/-- Reads at least one and at most `most` digits. -/
def readNumber (most : Nat) (cs : List Char) : Option (Nat × List Char) :=
  let ds := (cs.take most).takeWhile Char.isDigit
  if ds = [] then none else some (digitsValue ds, cs.drop ds.length)

/-- Reads one given character. -/
def readMark (mark : Char) : List Char → Option (List Char)
  | [] => none
  | c :: cs => if c = mark then some cs else none

/-- Reads a number of at most two digits, blank space before it allowed. -/
def readPart (cs : List Char) : Option (Nat × List Char) :=
  readNumber 2 (trimStart cs)

/-- Reads a year: up to four digits, or a sign and any number of digits. -/
def readYear (cs : List Char) : Option (Int × List Char) :=
  match trimStart cs with
  | '-' :: cs => (readNumber cs.length cs).map fun r => (-(r.1 : Int), r.2)
  | '+' :: cs => (readNumber cs.length cs).map fun r => ((r.1 : Int), r.2)
  | cs => (readNumber 4 cs).map fun r => ((r.1 : Int), r.2)

/-- Reads a fraction of a second, if there is one: nine digits count, those after them do not. -/
def readFraction : List Char → Option (Nat × List Char)
  | '.' :: cs =>
    let ds := (cs.take 9).takeWhile Char.isDigit
    if ds = [] then none
    else
      some (digitsValue ds * Nat.pow 10 (9 - ds.length),
        (cs.drop ds.length).dropWhile Char.isDigit)
  | cs => some (0, cs)

/-- Reads two digits, the first of them at most `highest`. -/
def readTwoDigits (highest : Char) : List Char → Option (Nat × List Char)
  | a :: b :: cs =>
    if '0' ≤ a ∧ a ≤ highest ∧ b.isDigit then some (digitsValue [a, b], cs) else none
  | _ => none

/-- Reads hours and minutes of an offset; colons and blank space may stand between them. -/
def readOffsetSize (cs : List Char) : Option (Nat × List Char) := do
  let (hours, cs) ← readTwoDigits '9' cs
  let (minutes, cs) ← readTwoDigits '5' (cs.dropWhile fun c => c = ':' || isBlank c)
  some (hours * 3600 + minutes * 60, cs)

/-- Reads the offset from UTC in seconds: a letter Z, the letters UTC, or a sign and the size. The
sign may be the hyphen or the minus sign. -/
def readOffset (cs : List Char) : Option (Int × List Char) :=
  match trimStart cs with
  | [] => none
  | c :: rest =>
    if ((c :: rest).take 3).map Char.toUpper = ['U', 'T', 'C'] then some (0, rest.drop 2)
    else if c = 'Z' ∨ c = 'z' then some (0, rest)
    else if c = '+' then (readOffsetSize rest).map fun r => ((r.1 : Int), r.2)
    else if c = '-' ∨ c = '\u2212' then (readOffsetSize rest).map fun r => (-(r.1 : Int), r.2)
    else none

/-- The date and the time of day as they stand, the fraction in nanoseconds, and the offset. -/
structure Spelled where
  date : Date
  hour : Nat
  minute : Nat
  second : Nat
  nano : Nat
  offset : Int

/-- Reads the parts of an instant; nothing but blank space may follow them. -/
def readSpelled (cs : List Char) : Option Spelled := do
  let (year, cs) ← readYear cs
  let (month, cs) ← readMark '-' (trimStart cs) >>= readPart
  let (day, cs) ← readMark '-' (trimStart cs) >>= readPart
  let cs ← match cs with
    | c :: cs => if c = 'T' ∨ c = 't' ∨ c = ' ' then some cs else none
    | [] => none
  let (hour, cs) ← readPart cs
  let (minute, cs) ← readMark ':' (trimStart cs) >>= readPart
  let (second, cs) ← readMark ':' (trimStart cs) >>= readPart
  let (nano, cs) ← readFraction cs
  let (offset, cs) ← readOffset cs
  if allBlank cs then some ⟨⟨year, month, day⟩, hour, minute, second, nano, offset⟩ else none

/-- The instant that a spelled date, time and offset denote: all parts have to exist, second 60 is
a leap second, and both the date as it stands and the date in UTC lie within the range. -/
def ofSpelled? (s : Spelled) : Option Instant := do
  let length ← monthLength? s.date.year s.date.month
  if s.date.day < 1 ∨ length < s.date.day then none
  if 24 ≤ s.hour ∨ 60 ≤ s.minute ∨ 61 ≤ s.second then none
  if s.offset ≤ -86400 ∨ 86400 ≤ s.offset then none
  let second := s.hour * 3600 + s.minute * 60 + min s.second 59
  let nano := s.nano + (s.second - 59) * 1000000000
  let here ← ofParts? (dayOfDate s.date) second nano
  let total := here.day * 86400 + here.second - s.offset
  ofParts? (total / 86400) (total % 86400).toNat nano

/-- The instant that a text denotes. -/
def read? (s : String) : Option Instant :=
  readSpelled s.toList >>= ofSpelled?

end Instant

end Handoff
