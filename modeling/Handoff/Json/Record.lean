import Handoff.Json.Value
/-!
# Records in JSON

A record is an object of its fields by name, or an array of its fields by place. Members that the
record does not know are passed over, but each name must have a text; a field must not be given
twice, and an array must not be longer than the record.

* `Fields.read?`: the fields given in a document.
* `Fields.required`, `optional`, `defaulted`: one field, by what its absence means.
* `Choice.read`: one of finitely many named alternatives.
-/

namespace Handoff.Json

/-! ## Plain values -/

/-- Reads a string. -/
def asString : Document → Option String
  | .string s => s
  | _ => none

/-- Reads a truth value. -/
def asBool : Document → Option Bool
  | .bool b => some b
  | _ => none

/-- Reads a whole number of the range `lowest .. highest`. -/
def asInt (lowest highest : Int) : Document → Option Int
  | .number n =>
    match n.toInt? with
    | some i => if lowest ≤ i ∧ i ≤ highest then some i else none
    | none => none
  | _ => none

/-- Reads a 64-bit signed number. -/
def asInt64 (d : Document) : Option Int64 :=
  (asInt (-9223372036854775808) 9223372036854775807 d).map Int64.ofInt

/-- Reads a 32-bit signed number. -/
def asInt32 (d : Document) : Option Int32 :=
  (asInt (-2147483648) 2147483647 d).map Int32.ofInt

/-- Reads a 64-bit unsigned number. -/
def asUInt64 (d : Document) : Option UInt64 :=
  (asInt 0 18446744073709551615 d).map fun i => UInt64.ofNat i.toNat

/-- Reads a value that may be absent, which `null` says. -/
def asOption {α : Type} (read : Document → Option α) : Document → Option (Option α)
  | .null => some none
  | d => (read d).map some

/-- Reads items one after another. -/
def asItems {α : Type} (read : Document → Option α) : List Document → Option (List α)
  | [] => some []
  | d :: ds =>
    match read d, asItems read ds with
    | some a, some as => some (a :: as)
    | _, _ => none

/-- Reads an array. -/
def asList {α : Type} (read : Document → Option α) : Document → Option (List α)
  | .array items => asItems read items
  | _ => none

/-! ## Fields -/

/-- The fields that a document gives to a record, and whether it gives them by name. -/
structure Fields where
  byName : Bool
  given : List (String × Document)

namespace Fields

/-- The members that the record knows. A name without a text is refused. -/
def known (names : List String) :
    List (Option String × Document) → Option (List (String × Document))
  | [] => some []
  | (none, _) :: _ => none
  | (some name, d) :: ms =>
    (known names ms).map fun given => if names.contains name then (name, d) :: given else given

/-- No two of the names are equal. -/
def distinct : List String → Bool
  | [] => true
  | name :: names => !names.contains name && distinct names

/-- The fields by name. -/
def ofMembers? (names : List String) (members : List (Option String × Document)) : Option Fields :=
  match known names members with
  | some given => if distinct (given.map (·.1)) then some ⟨true, given⟩ else none
  | none => none

/-- The fields by place. -/
def ofItems? (names : List String) (items : List Document) : Option Fields :=
  if items.length ≤ names.length then some ⟨false, names.zip items⟩ else none

/-- The fields that a document gives to a record with these field names. -/
def read? (names : List String) : Document → Option Fields
  | .object members => ofMembers? names members
  | .array items => ofItems? names items
  | _ => none

/-- The document given for a field. -/
def get? (f : Fields) (name : String) : Option Document :=
  f.given.lookup name

/-- A field that must be given. -/
def required {α : Type} (f : Fields) (name : String) (read : Document → Option α) : Option α :=
  match f.get? name with
  | some d => read d
  | none => none

/-- A field that has a default. -/
def defaulted {α : Type} (f : Fields) (name : String) (read : Document → Option α) (default : α) :
    Option α :=
  match f.get? name with
  | some d => read d
  | none => some default

/-- A field that may be absent: as `null`, or left out wherever it stands. -/
def optional {α : Type} (f : Fields) (name : String) (read : Document → Option α) :
    Option (Option α) :=
  f.defaulted name (asOption read) none

/-- A field that may be absent: as `null`, or left out of an object; an array has to reach it. -/
def nullable {α : Type} (f : Fields) (name : String) (read : Document → Option α) :
    Option (Option α) :=
  if f.byName then f.optional name read else f.required name (asOption read)

end Fields

/-! ## Named alternatives -/

/-- How a document reaches its reader: directly, or out of a buffer that an enclosing value was
gathered in before its kind was known. -/
inductive Source where
  | direct
  | buffered
  deriving DecidableEq

/-- What may stand as the value of an alternative written as an object: `null`, and out of a buffer
also an empty object. -/
def isUnit : Source → Document → Bool
  | _, .null => true
  | .buffered, .object [] => true
  | _, _ => false

/-- The name of the alternative that a document chooses: a string, or an object with that one
member and no content. -/
def readName (source : Source) : Document → Option String
  | .string s => s
  | .object [(name, d)] => if isUnit source d then name else none
  | _ => none

/-- A type of finitely many alternatives, each with a name of its own. -/
class Choice (α : Type) where
  all : List α
  name : α → String

namespace Choice

/-- The alternative with a name. -/
def ofName? {α : Type} [Choice α] (name : String) : Option α :=
  (all (α := α)).find? fun a => Choice.name a = name

/-- Reads an alternative. -/
def read {α : Type} [Choice α] (source : Source) (d : Document) : Option α :=
  (readName source d).bind ofName?

/-- An alternative as a document: its name. -/
def document {α : Type} [Choice α] (a : α) : Document :=
  .text (Choice.name a)

end Choice

end Handoff.Json
