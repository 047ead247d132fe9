import Handoff.Json.Document
/-!
# JSON values

A value is a document taken as data: strings have a text, numbers are in range, and an object is a
map from names to values, in ascending order of the names; of a name given twice, the last value
counts.

* `Value.ofDocument?`: the value that a document stands for.
* `Value.document`: the document of a value.
* `Value.read?`: the value that a text stands for; nesting is limited.
-/

namespace Handoff.Json

/-- A JSON value. -/
inductive Value where
  | null
  | bool (b : Bool)
  | number (n : Numeral)
  | string (s : String)
  | array (items : List Value)
  | object (members : List (String × Value))

namespace Value

/-- Adds a member at its place, unless the name is there already. -/
def addMember (name : String) (v : Value) : List (String × Value) → List (String × Value)
  | [] => [(name, v)]
  | m :: ms =>
    if name = m.1 then m :: ms
    else if name < m.1 then (name, v) :: m :: ms
    else m :: addMember name v ms

mutual

/-- The value that a document stands for, if it is sound. -/
def ofDocument? : Document → Option Value
  | .null => some .null
  | .bool b => some (.bool b)
  | .number n => if n.inRange then some (.number n) else none
  | .string s => s.map .string
  | .array items => (ofItems? items).map .array
  | .object members => (ofMembers? members).map .object

def ofItems? : List Document → Option (List Value)
  | [] => some []
  | d :: ds =>
    match ofDocument? d, ofItems? ds with
    | some v, some vs => some (v :: vs)
    | _, _ => none

def ofMembers? : List (Option String × Document) → Option (List (String × Value))
  | [] => some []
  | (name, d) :: ms =>
    match name, ofDocument? d, ofMembers? ms with
    | some name, some v, some vs => some (addMember name v vs)
    | _, _, _ => none

end

mutual

/-- The document of a value. -/
def document : Value → Document
  | .null => .null
  | .bool b => .bool b
  | .number n => .number n
  | .string s => .string (some s)
  | .array items => .array (itemDocuments items)
  | .object members => .object (memberDocuments members)

def itemDocuments : List Value → List Document
  | [] => []
  | v :: vs => document v :: itemDocuments vs

def memberDocuments : List (String × Value) → List (Option String × Document)
  | [] => []
  | (name, v) :: ms => (some name, document v) :: memberDocuments ms

end

/-- The value that a document stands for inside `levels` arrays and objects. -/
def ofNested? (levels : Nat) (d : Document) : Option Value :=
  if d.depth + levels ≤ Document.maxDepth then ofDocument? d else none

/-- The value that a text stands for. -/
def read? (s : String) : Option Value :=
  Document.read? s >>= ofNested? 0

/-- The member of an object with a name. -/
def member? (name : String) : Value → Option Value
  | .object members => (members.find? fun m => m.1 = name).map (·.2)
  | _ => none

end Value

end Handoff.Json
