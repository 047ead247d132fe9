import Handoff.Json.Numeral
/-!
# The tokens of JSON text

A text is cut into brackets, marks, words, numbers and strings; blank space between them is space,
tab, line feed and carriage return. A string is kept as the text it stands for, or as `none` if it
holds half of a surrogate pair without the other half.

* `Token.text`: the characters of a token.
* `tokens?`: the tokens of a text, if it can be cut.
-/

namespace Handoff.Json

/-- A token of JSON text. -/
inductive Token where
  | openArray
  | closeArray
  | openObject
  | closeObject
  | comma
  | colon
  | null
  | bool (b : Bool)
  | number (n : Numeral)
  | string (s : Option String)
  deriving DecidableEq

/-! ## Writing -/

/-- A hexadecimal digit, in small letters. -/
def hexChar (n : Nat) : Char :=
  if n < 10 then Char.ofNat (48 + n) else Char.ofNat (87 + n)

/-- How a character stands in a string: quotes, backslashes and control characters are escaped. -/
def escape (c : Char) : List Char :=
  if c = '"' then ['\\', '"']
  else if c = '\\' then ['\\', '\\']
  else if 32 ≤ c.toNat then [c]
  else if c.toNat = 8 then ['\\', 'b']
  else if c.toNat = 12 then ['\\', 'f']
  else if c.toNat = 10 then ['\\', 'n']
  else if c.toNat = 13 then ['\\', 'r']
  else if c.toNat = 9 then ['\\', 't']
  else ['\\', 'u', '0', '0', hexChar (c.toNat / 16), hexChar (c.toNat % 16)]

/-- A string in quotes. -/
def quote (s : String) : List Char :=
  '"' :: s.toList.flatMap escape ++ ['"']

namespace Token

/-- The characters of a token; a string without a text is shown as a lone half of a pair. -/
def text : Token → List Char
  | openArray => ['[']
  | closeArray => [']']
  | openObject => ['\x7b']
  | closeObject => ['\x7d']
  | comma => [',']
  | colon => [':']
  | null => "null".toList
  | bool true => "true".toList
  | bool false => "false".toList
  | number n => n.text
  | string (some s) => quote s
  | string none => ['"', '\\', 'u', 'd', '8', '0', '0', '"']

end Token

/-! ## Strings

A string is first read into code units: the code point of a character that stands for itself, or
the number given by an escape. Only escapes give surrogates. -/

/-- The value of a hexadecimal digit. -/
def hexDigit? (c : Char) : Option Nat :=
  if '0' ≤ c ∧ c ≤ '9' then some (c.toNat - 48)
  else if 'a' ≤ c ∧ c ≤ 'f' then some (c.toNat - 87)
  else if 'A' ≤ c ∧ c ≤ 'F' then some (c.toNat - 55)
  else none

/-- The code unit of an escape of one letter. -/
def shortEscape? (c : Char) : Option Nat :=
  if c = '"' ∨ c = '\\' ∨ c = '/' then some c.toNat
  else if c = 'b' then some 8
  else if c = 'f' then some 12
  else if c = 'n' then some 10
  else if c = 'r' then some 13
  else if c = 't' then some 9
  else none

/-- The text of a list of code units, if every surrogate is half of a pair. -/
def unitsText? : List Nat → Option (List Char)
  | [] => some []
  | u :: us =>
    if 0xD800 ≤ u ∧ u < 0xDC00 then
      match us with
      | [] => none
      | v :: us =>
        if 0xDC00 ≤ v ∧ v < 0xE000 then
          (unitsText? us).map (Char.ofNat (0x10000 + (u - 0xD800) * 0x400 + (v - 0xDC00)) :: ·)
        else none
    else if 0xDC00 ≤ u ∧ u < 0xE000 then none
    else (unitsText? us).map (Char.ofNat u :: ·)

/-! ## Cutting a text

The text is read character by character. Outside strings a run of characters that are neither
blank nor punctuation is gathered and then has to be a word or a number as a whole. -/

/-- Where in a token the reader is. The run and the code units are kept last one first. -/
inductive Cursor where
  | outside (run : List Char)
  | plain (units : List Nat)
  | escaped (units : List Nat)
  | hex (digits : Nat) (value : Nat) (units : List Nat)

/-- A token of one character. -/
def punctuation? (c : Char) : Option Token :=
  if c = '[' then some .openArray
  else if c = ']' then some .closeArray
  else if c = '\x7b' then some .openObject
  else if c = '\x7d' then some .closeObject
  else if c = ',' then some .comma
  else if c = ':' then some .colon
  else none

/-- Blank space between tokens. -/
def isSpace (c : Char) : Bool :=
  c = ' ' || c = '\t' || c = '\n' || c = '\r'

/-- The word or number that a run spells. -/
def word? (run : List Char) : Option Token :=
  if run = "null".toList then some .null
  else if run = "true".toList then some (.bool true)
  else if run = "false".toList then some (.bool false)
  else (Numeral.read? run).map .number

/-- The tokens so far (last one first) with the one that a finished run spells, if any. -/
def finishRun (run : List Char) (acc : List Token) : Option (List Token) :=
  if run = [] then some acc else (word? run.reverse).map (· :: acc)

/-- The next character. -/
def Cursor.step (c : Char) (acc : List Token) : Cursor → Option (List Token × Cursor)
  | .outside run =>
    if isSpace c then (finishRun run acc).map (·, .outside [])
    else if c = '"' then (finishRun run acc).map (·, .plain [])
    else
      match punctuation? c with
      | some t => (finishRun run acc).map (t :: ·, .outside [])
      | none => some (acc, .outside (c :: run))
  | .plain units =>
    if c = '"' then
      some (.string ((unitsText? units.reverse).map String.ofList) :: acc, .outside [])
    else if c = '\\' then some (acc, .escaped units)
    else if c.toNat < 32 then none
    else some (acc, .plain (c.toNat :: units))
  | .escaped units =>
    if c = 'u' then some (acc, .hex 4 0 units)
    else (shortEscape? c).map fun u => (acc, .plain (u :: units))
  | .hex digits value units =>
    (hexDigit? c).map fun d =>
      if digits ≤ 1 then (acc, .plain ((value * 16 + d) :: units))
      else (acc, .hex (digits - 1) (value * 16 + d) units)

/-- Reads on from inside a text. -/
def scan : Cursor → List Token → List Char → Option (List Token)
  | .outside run, acc, [] => (finishRun run acc).map List.reverse
  | _, _, [] => none
  | cursor, acc, c :: cs =>
    match cursor.step c acc with
    | none => none
    | some (acc, cursor) => scan cursor acc cs

/-- The tokens of a text. -/
def tokens? (cs : List Char) : Option (List Token) :=
  scan (.outside []) [] cs

end Handoff.Json
