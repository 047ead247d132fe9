/-!
# Whole numbers in text

A number is an optional sign and at least one decimal digit, read from left to right; the first
problem met is the one reported, and a character that is no digit comes before an overflow at the
same place.
-/

namespace Handoff.Text

/-- Why a text is not a whole number of the wanted range. -/
inductive IntegerFault where
  | empty
  | invalidDigit
  | tooLarge
  | tooSmall
  deriving DecidableEq

namespace IntegerFault

/-- The words in which the fault is reported. -/
def message : IntegerFault → String
  | empty => "cannot parse integer from empty string"
  | invalidDigit => "invalid digit found in string"
  | tooLarge => "number too large to fit in target type"
  | tooSmall => "number too small to fit in target type"

end IntegerFault

/-- The value of a decimal digit. -/
def digit? (c : Char) : Option Nat :=
  if '0' ≤ c ∧ c ≤ '9' then some (c.toNat - 48) else none

/-- Reads digits onto the value `acc` of the digits before them, as long as the value stays at most
`limit`. -/
def readDigits (limit : Nat) (beyond : IntegerFault) : Nat → List Char → Except IntegerFault Nat
  | acc, [] => .ok acc
  | acc, c :: cs =>
    match digit? c with
    | none => .error .invalidDigit
    | some d =>
      if acc * 10 + d ≤ limit then readDigits limit beyond (acc * 10 + d) cs else .error beyond

/-- Reads at least one digit. A sign that stands alone counts as an invalid digit. -/
def readMagnitude (limit : Nat) (beyond : IntegerFault) : List Char → Except IntegerFault Nat
  | [] => .error .invalidDigit
  | cs => readDigits limit beyond 0 cs

/-- Reads a number of the range `0 .. highest`; a leading plus is accepted. -/
def readNatural (highest : Nat) : List Char → Except IntegerFault Nat
  | [] => .error .empty
  | '+' :: cs => readMagnitude highest .tooLarge cs
  | cs => readMagnitude highest .tooLarge cs

/-- Reads a number of the range `-lowest .. highest`. -/
def readInteger (lowest highest : Nat) : List Char → Except IntegerFault Int
  | [] => .error .empty
  | '+' :: cs => (readMagnitude highest .tooLarge cs).map Int.ofNat
  | '-' :: cs => (readMagnitude lowest .tooSmall cs).map fun n => -Int.ofNat n
  | cs => (readMagnitude highest .tooLarge cs).map Int.ofNat

/-- Reads a 64-bit signed number. -/
def readInt64 (cs : List Char) : Except IntegerFault Int64 :=
  (readInteger 9223372036854775808 9223372036854775807 cs).map Int64.ofInt

/-- The decimal text of a whole number. -/
def showInt (i : Int) : String :=
  match i with
  | .ofNat n => Nat.repr n
  | .negSucc n => "-" ++ Nat.repr (n + 1)

end Handoff.Text
