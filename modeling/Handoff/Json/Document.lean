import Handoff.Json.Token
/-!
# JSON documents

A document is what a JSON text spells, before any rule about its use: members in the order of the
text, a name given twice kept twice, numbers of any size, strings that may lack a text.

* `Document.print`, `Document.read?`: writing and reading; the grammar is strict, and only blank
  space may stand around the one value.
* `Document.depth`: how deep arrays and objects are nested.
* `Document.sound`: every string has a text and every number is in range.
-/

namespace Handoff.Json

/-- What a JSON text spells. -/
inductive Document where
  | null
  | bool (b : Bool)
  | number (n : Numeral)
  | string (s : Option String)
  | array (items : List Document)
  | object (members : List (Option String × Document))

namespace Document

/-! ## Building documents -/

/-- A string that has a text. -/
def text (s : String) : Document :=
  .string (some s)

/-- A whole number. -/
def int (i : Int) : Document :=
  .number (Numeral.ofInt i)

/-- An object from its members in order. -/
def record (members : List (String × Document)) : Document :=
  .object (members.map fun m => (some m.1, m.2))

/-- `null` for an absent value. -/
def option {α : Type} (f : α → Document) : Option α → Document
  | none => .null
  | some a => f a

/-- An array of values. -/
def list {α : Type} (f : α → Document) (as : List α) : Document :=
  .array (as.map f)

/-! ## Writing -/

mutual

/-- The tokens of a document, without blank space. -/
def tokens : Document → List Token
  | .null => [.null]
  | .bool b => [.bool b]
  | .number n => [.number n]
  | .string s => [.string s]
  | .array items => .openArray :: itemTokens items ++ [.closeArray]
  | .object members => .openObject :: memberTokens members ++ [.closeObject]

/-- Items with commas between them. -/
def itemTokens : List Document → List Token
  | [] => []
  | d :: ds => tokens d ++ (if ds.isEmpty then [] else .comma :: itemTokens ds)

/-- Members with commas between them. -/
def memberTokens : List (Option String × Document) → List Token
  | [] => []
  | (name, d) :: ms =>
    .string name :: .colon :: tokens d ++ (if ms.isEmpty then [] else .comma :: memberTokens ms)

end

/-- The characters of a document's text. -/
def printChars (d : Document) : List Char :=
  d.tokens.flatMap Token.text

/-- The text of a document, without blank space. -/
def print (d : Document) : String :=
  String.ofList d.printChars

/-! ## Reading

Tokens are read one by one. The arrays and objects that are still open are kept on a stack, the
innermost first, with what has been read of them, last one first. -/

/-- An open array, an open object, or an open object whose last member lacks its value. -/
inductive Frame where
  | items (done : List Document)
  | members (done : List (Option String × Document))
  | member (done : List (Option String × Document)) (name : Option String)

/-- What has to come next: a value, a value or the end of an array just opened, a name (or the end
of an object just opened), the colon after a name, a comma or the end after a value, or nothing. -/
inductive Expecting where
  | value (stack : List Frame)
  | firstItem (stack : List Frame)
  | name (fresh : Bool) (done : List (Option String × Document)) (stack : List Frame)
  | colon (name : Option String) (done : List (Option String × Document)) (stack : List Frame)
  | next (stack : List Frame)
  | nothing (d : Document)

/-- A value is complete: it goes into the innermost open array or object. -/
def complete (d : Document) : List Frame → Option Expecting
  | [] => some (.nothing d)
  | .items done :: stack => some (.next (.items (d :: done) :: stack))
  | .member done name :: stack => some (.next (.members ((name, d) :: done) :: stack))
  | .members _ :: _ => none

/-- A value starts. -/
def start (stack : List Frame) : Token → Option Expecting
  | .null => complete .null stack
  | .bool b => complete (.bool b) stack
  | .number n => complete (.number n) stack
  | .string s => complete (.string s) stack
  | .openArray => some (.firstItem stack)
  | .openObject => some (.name true [] stack)
  | _ => none

/-- The next token. -/
def step : Expecting → Token → Option Expecting
  | .value stack, t => start stack t
  | .firstItem stack, t =>
    if t = .closeArray then complete (.array []) stack else start (.items [] :: stack) t
  | .name fresh done stack, t =>
    match t with
    | .string s => some (.colon s done stack)
    | .closeObject => if fresh then complete (.object done.reverse) stack else none
    | _ => none
  | .colon name done stack, t =>
    if t = .colon then some (.value (.member done name :: stack)) else none
  | .next (.items done :: stack), t =>
    match t with
    | .comma => some (.value (.items done :: stack))
    | .closeArray => complete (.array done.reverse) stack
    | _ => none
  | .next (.members done :: stack), t =>
    match t with
    | .comma => some (.name false done stack)
    | .closeObject => complete (.object done.reverse) stack
    | _ => none
  | .next _, _ => none
  | .nothing _, _ => none

/-- Reads tokens from a given point on. -/
def steps : Expecting → List Token → Option Expecting
  | e, [] => some e
  | e, t :: ts =>
    match step e t with
    | none => none
    | some e => steps e ts

/-- The document that a list of tokens spells. -/
def ofTokens? (ts : List Token) : Option Document :=
  match steps (.value []) ts with
  | some (.nothing d) => some d
  | _ => none

/-- The document that a text spells. -/
def readChars? (cs : List Char) : Option Document :=
  tokens? cs >>= ofTokens?

/-- The document that a text spells. -/
def read? (s : String) : Option Document :=
  readChars? s.toList

/-! ## Depth and soundness -/

mutual

/-- The number of arrays and objects around the innermost value, the document itself included. -/
def depth : Document → Nat
  | .array items => itemsDepth items + 1
  | .object members => membersDepth members + 1
  | _ => 0

def itemsDepth : List Document → Nat
  | [] => 0
  | d :: ds => max (depth d) (itemsDepth ds)

def membersDepth : List (Option String × Document) → Nat
  | [] => 0
  | (_, d) :: ms => max (depth d) (membersDepth ms)

end

mutual

/-- Every string and every name has a text, and every number is in range. -/
def sound : Document → Bool
  | .null => true
  | .bool _ => true
  | .number n => n.inRange
  | .string s => s.isSome
  | .array items => itemsSound items
  | .object members => membersSound members

def itemsSound : List Document → Bool
  | [] => true
  | d :: ds => sound d && itemsSound ds

def membersSound : List (Option String × Document) → Bool
  | [] => true
  | (name, d) :: ms => name.isSome && sound d && membersSound ms

end

/-- Arrays and objects may be nested this deep in a text. -/
def maxDepth : Nat := 127

/-- The document may stand inside `levels` arrays and objects: it is sound, and not nested too
deep. -/
def admissible (levels : Nat) (d : Document) : Bool :=
  d.sound && d.depth + levels ≤ maxDepth

end Document

end Handoff.Json
