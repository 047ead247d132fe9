import Handoff.Text.Integer
/-!
# Numbers in JSON text

A numeral keeps a number exactly as the text spells it: sign, whole part, digits of the fraction
and exponent. `-0`, numerals with a fraction or an exponent, and numerals beyond 64 bits are no
whole numbers; whatever is no whole number must lie within the range of binary floating point.

* `Numeral.text`, `Numeral.read?`: writing and reading.
* `Numeral.toInt?`: the whole number that a numeral denotes.
* `Numeral.inRange`: the numeral denotes a whole number or a finite floating point number.
-/

namespace Handoff.Json

open Text

/-- A number as JSON text spells it. -/
structure Numeral where
  negative : Bool
  whole : Nat
  fraction : List (Fin 10)
  exponent : Option Int
  deriving DecidableEq

namespace Numeral

/-! ## Writing -/

/-- The character of a digit. -/
def digitChar (d : Fin 10) : Char :=
  Char.ofNat (48 + d.val)

/-- The text of a numeral. -/
def text (n : Numeral) : List Char :=
  (if n.negative then ['-'] else []) ++ Nat.toDigits 10 n.whole ++
    (match n.fraction with
      | [] => []
      | ds => '.' :: ds.map digitChar) ++
    (match n.exponent with
      | none => []
      | some e => 'e' :: (showInt e).toList)

/-! ## Reading -/

/-- The digit that a character shows. -/
def digit? (c : Char) : Option (Fin 10) :=
  if c.isDigit then some (Fin.ofNat 10 (c.toNat - 48)) else none

/-- The value of a run of digits. -/
def natOf (ds : List (Fin 10)) : Nat :=
  ds.foldl (fun acc d => acc * 10 + d.val) 0

/-- The digits at the start of a text and what follows them. -/
def digits : List Char → List (Fin 10) × List Char
  | [] => ([], [])
  | c :: cs =>
    match digit? c with
    | some d => (d :: (digits cs).1, (digits cs).2)
    | none => ([], c :: cs)

/-- Reads an exponent that ends the text: an optional sign and at least one digit. -/
def readExponent (cs : List Char) : Option Int :=
  let signed : Bool × List Char :=
    match cs with
    | '-' :: cs => (true, cs)
    | '+' :: cs => (false, cs)
    | cs => (false, cs)
  match digits signed.2 with
  | ([], _) => none
  | (ds, []) => some (if signed.1 then -(natOf ds : Int) else natOf ds)
  | (_, _ :: _) => none

/-- Reads what follows the whole part: nothing, or an exponent. -/
def readTail (negative : Bool) (whole : Nat) (fraction : List (Fin 10)) :
    List Char → Option Numeral
  | [] => some ⟨negative, whole, fraction, none⟩
  | c :: cs =>
    if c = 'e' ∨ c = 'E' then (readExponent cs).map fun e => ⟨negative, whole, fraction, some e⟩
    else none

/-- Reads an unsigned numeral: a whole part without superfluous zeros, then a fraction of at least
one digit if there is a point, then an exponent. -/
def readUnsigned (negative : Bool) (cs : List Char) : Option Numeral :=
  match digits cs with
  | ([], _) => none
  | (d :: ds, rest) =>
    if d = 0 ∧ ds ≠ [] then none
    else
      match rest with
      | '.' :: rest =>
        match digits rest with
        | ([], _) => none
        | (fs, rest) => readTail negative (natOf (d :: ds)) fs rest
      | rest => readTail negative (natOf (d :: ds)) [] rest

/-- The numeral that a text spells. -/
def read? : List Char → Option Numeral
  | '-' :: cs => readUnsigned true cs
  | cs => readUnsigned false cs

/-! ## Whole numbers -/

/-- The numeral of a whole number. -/
def ofInt (i : Int) : Numeral :=
  ⟨i < 0, i.natAbs, [], none⟩

/-- Numbers of 64 bits stay below this if they have no sign. -/
def unsignedLimit : Nat := 18446744073709551616

/-- No number of 64 bits is below the negative of this. -/
def signedLimit : Nat := 9223372036854775808

/-- The whole number that a numeral denotes; it fits 64 bits, signed if it is negative. -/
def toInt? (n : Numeral) : Option Int :=
  match n.fraction, n.exponent with
  | [], none =>
    if n.negative then
      if 0 < n.whole ∧ n.whole ≤ signedLimit then some (-(n.whole : Int)) else none
    else if n.whole < unsignedLimit then some n.whole
    else none
  | _, _ => none

/-! ## Range

The digits are gathered in 64 bits; those that no longer fit are dropped, in the whole part each
for one power of ten. The digits kept and the power of ten are both rounded to 53 bits, and the
product must stay below the first number that rounds to infinity. -/

/-- Appends digits as long as the value fits 64 bits; also the number of digits dropped. -/
def gather : Nat → List (Fin 10) → Nat × Nat
  | acc, [] => (acc, 0)
  | acc, d :: ds =>
    if acc * 10 + d.val < unsignedLimit then gather (acc * 10 + d.val) ds else (acc, ds.length + 1)

/-- A number rounded to 53 significant bits, a half to the even neighbour. -/
def round53 (n : Nat) : Nat :=
  if n < Nat.pow 2 53 then n
  else
    let unit := Nat.pow 2 (n.log2 - 52)
    let q := n / unit
    let r := n % unit
    (if r * 2 < unit ∨ (r * 2 = unit ∧ q % 2 = 0) then q else q + 1) * unit

/-- The numeral does not exceed the range of binary floating point. -/
def inRange (n : Numeral) : Bool :=
  let whole := gather 0 (digits (Nat.toDigits 10 n.whole)).1
  let all := gather whole.1 n.fraction
  let power := (whole.2 : Int) - (n.fraction.length - all.2 : Nat) + n.exponent.getD 0
  all.1 == 0 || power < 0 ||
    (power ≤ 308 && round53 all.1 * round53 (Nat.pow 10 power.toNat) <
      Nat.pow 2 1024 - Nat.pow 2 970)

end Numeral

end Handoff.Json
