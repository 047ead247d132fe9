import Handoff.Fault
import Handoff.Text.Blank
import Handoff.Text.Split
/-!
# Lists of user-defined functions

A SQL task names the functions it uses by their ids, separated by commas. Blank entries at the end
of the list do not count; any other entry that is no id spoils the list.

* `dropBlankEnd`: the entries that count; at least one is kept.
* `readUdfIds`: the ids, or the fault of the first entry that is no id.
-/

namespace Handoff

open Text

/-- The entries without the blank ones at the end, but never less than one entry. -/
def dropBlankEnd : List (List Char) → List (List Char)
  | [] => []
  | entry :: entries =>
    match dropBlankEnd entries with
    | [] => [entry]
    | [last] => if allBlank last then [entry] else [entry, last]
    | kept => entry :: kept

/-- Reads an entry of the list. -/
def readUdfId (entry : List Char) : Except Fault UdfId :=
  match Id.ofText entry with
  | .ok id => .ok id
  | .error cause => .error (.invalidUdfId (String.ofList entry) cause)

/-- Reads entries from left to right. -/
def readEntries : List (List Char) → Except Fault (List UdfId)
  | [] => .ok []
  | entry :: entries =>
    match readUdfId entry with
    | .error fault => .error fault
    | .ok id =>
      match readEntries entries with
      | .error fault => .error fault
      | .ok ids => .ok (id :: ids)

/-- Reads a list of ids. -/
def readUdfIds (raw : List Char) : Except Fault (List UdfId) :=
  readEntries (dropBlankEnd (splitAll ',' raw))

end Handoff
