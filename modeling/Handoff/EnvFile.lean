import Handoff.Text.Alphanumeric
import Handoff.Text.Blank
import Handoff.Text.Split
/-!
# Environment files

An environment file sets variables, one `KEY=value` a line. Values may be quoted, by single quotes
as they stand, or by double quotes with escapes; a quoted value may go over several lines. Outside
single quotes, `$NAME` and `${NAME}` stand for the value of a variable, of the environment or
set before. A number sign after blank space starts a comment, and `export` may precede a key.

A variable that is set already keeps its value. At the first line that cannot be read, reading ends;
what the lines before it set stays set. No variable can have a value that holds the character NUL.

The file is looked for in the working directory first, and then in the directories above it.

* `Variables.value?`: what an environment knows under a name.
* `EnvFile.find?`: the text of the file that is found.
* `EnvFile.load`: an environment after a file was read into it.
* `EnvFile.mentioned`: all texts in a file that could name a variable.
-/

namespace Handoff

open Text

/-- Variables with their values; of a name given twice the first value counts. -/
abbrev Variables := List (String × String)

/-- What follows a text and an equals sign at the start of another. -/
def afterEquals : List Char → List Char → Option (List Char)
  | [], '=' :: value => some value
  | c :: name, d :: entry => if c = d then afterEquals name entry else none
  | _, _ => none

/-- The value that variables give to a name. A variable is kept as one text, its name, an equals sign
and its value; so a name that holds an equals sign itself may reach into a value. -/
def Variables.value? (vs : Variables) (name : String) : Option String :=
  if name = "" then none
  else
    vs.findSome? fun v =>
      (afterEquals name.toList (v.1.toList ++ '=' :: v.2.toList)).map String.ofList

namespace EnvFile

/-! ## Finding the file -/

/-- The name of the file. -/
def name : String := ".env"

/-- What stands under the name of the file in a directory: no file, a file with its text, or something
that cannot be looked at or read. -/
inductive Entry where
  | absent
  | unreadable
  | file (text : String)
  deriving DecidableEq

/-- The text of the file that is found, given what stands in the working directory and in those above
it. The search ends at the first that is not absent. -/
def find? : List Entry → Option String
  | [] => none
  | .absent :: above => find? above
  | .unreadable :: _ => none
  | .file text :: _ => some text

/-! ## Lines

A line ends at a line feed, unless a quote is open there, or a backslash or blank space stands right
before it. -/

/-- Where in a line the reader is. -/
inductive LineState where
  | plain
  | blank
  | escape
  | single
  | singleEscape
  | double
  | doubleEscape
  | comment
  deriving DecidableEq

/-- The state after a character. -/
def LineState.next (c : Char) : LineState → LineState
  | .blank =>
    if c = '#' then .comment else if c = '\\' then .escape else if c = '"' then .double
    else if c = '\'' then .single else .plain
  | .plain =>
    if isBlank c && c ≠ '\n' && c ≠ '\r' then .blank else if c = '\\' then .escape
    else if c = '"' then .double else if c = '\'' then .single else .plain
  | .escape => .plain
  | .double => if c = '\\' then .doubleEscape else if c = '"' then .plain else .double
  | .doubleEscape => .double
  | .single => if c = '\\' then .singleEscape else if c = '\'' then .plain else .single
  | .singleEscape => .single
  | .comment => .comment

/-- The text up to the first line feed (with it) and the rest. -/
def cutLine : List Char → List Char × List Char
  | [] => ([], [])
  | c :: cs =>
    if c = '\n' then ([c], cs) else (c :: (cutLine cs).1, (cutLine cs).2)

/-- The physical lines of a text, each with its line feed. -/
def physicalLines : Nat → List Char → List (List Char)
  | 0, _ => []
  | _ + 1, [] => []
  | n + 1, cs => (cutLine cs).1 :: physicalLines n (cutLine cs).2

/-- The state at the end of a physical line; the part in front of a comment, if one starts. -/
def scanLine : LineState → List Char → List Char → LineState × List Char
  | state, seen, [] => (state, seen.reverse)
  | state, seen, c :: cs =>
    match state.next c with
    | .comment => (.comment, seen.reverse)
    | state => scanLine state (c :: seen) cs

/-- A line without the line feed at its end, and without the carriage return before it. -/
def dropLineEnd (cs : List Char) : List Char :=
  match cs.reverse with
  | '\n' :: '\r' :: rest => rest.reverse
  | '\n' :: rest => rest.reverse
  | _ => cs

/-- The logical lines; `none` for an end of the text inside a line. -/
def logicalLines (state : LineState) (pending : List Char) :
    List (List Char) → List (Option (List Char))
  | [] => if state = .plain then [] else [none]
  | line :: lines =>
    if (trimStart (pending ++ line)).head? = some '#' then
      some [] :: logicalLines .plain [] lines
    else
      match scanLine state [] line with
      | (.comment, seen) => some (pending ++ seen) :: logicalLines .plain [] lines
      | (.plain, _) => some (dropLineEnd (pending ++ line)) :: logicalLines .plain [] lines
      | (state, _) => logicalLines state (pending ++ line) lines

/-! ## Values -/

/-- Whether and how a variable is being named: not, after a dollar sign, or in braces. -/
inductive Naming where
  | off
  | bare
  | braced
  deriving DecidableEq

/-- Where in a value the reader is, with the name and the value so far, last character first. -/
structure ValueState where
  single : Bool
  double : Bool
  escaped : Bool
  ended : Bool
  naming : Naming
  name : List Char
  value : List Char

/-- Puts the value of the variable named so far in place of its name. -/
def ValueState.substitute (lookup : String → String) (s : ValueState) : ValueState :=
  { s with
    name := []
    value := (lookup (String.ofList s.name.reverse)).toList.reverse ++ s.value }

/-- The next character of a value; the text ends at a comment, and `none` says that the character
may not stand there. -/
def ValueState.step (lookup : String → String) (c : Char) (s : ValueState) :
    Option (Bool × ValueState) :=
  let push (s : ValueState) : Option (Bool × ValueState) :=
    some (true, { s with value := c :: s.value })
  if s.ended then
    if c = ' ' ∨ c = '\t' then some (true, s) else if c = '#' then some (false, s) else none
  else if s.escaped then
    if c = '\\' ∨ c = '\'' ∨ c = '"' ∨ c = '$' ∨ c = ' ' then push { s with escaped := false }
    else if c = 'n' then some (true, { s with escaped := false, value := '\n' :: s.value })
    else none
  else if s.single then
    if c = '\'' then some (true, { s with single := false }) else push s
  else if s.naming ≠ .off then
    if isAlphanumeric c then some (true, { s with name := c :: s.name })
    else if s.naming = .bare then
      if c = '\x7b' ∧ s.name = [] then some (true, { s with naming := .braced })
      else
        let s := s.substitute lookup
        if c = '$' then some (true, { s with naming := .bare }) else push { s with naming := .off }
    else if c = '\x7d' then some (true, { s.substitute lookup with naming := .off })
    else some (true, { s with name := c :: s.name })
  else if c = '$' then some (true, { s with naming := .bare })
  else if s.double then
    if c = '"' then some (true, { s with double := false })
    else if c = '\\' then some (true, { s with escaped := true })
    else push s
  else if c = '\'' then some (true, { s with single := true })
  else if c = '"' then some (true, { s with double := true })
  else if c = '\\' then some (true, { s with escaped := true })
  else if c = ' ' ∨ c = '\t' then some (true, { s with ended := true })
  else push s

/-- The value at its end; no quote and no brace may be open there. -/
def ValueState.finish (lookup : String → String) (s : ValueState) : Option String :=
  if s.naming = .braced ∨ s.single ∨ s.double then none
  else some (String.ofList (s.substitute lookup).value.reverse)

/-- Reads a value to its end. -/
def readValueFrom (lookup : String → String) (s : ValueState) : List Char → Option String
  | [] => s.finish lookup
  | c :: cs =>
    match s.step lookup c with
    | none => none
    | some (true, s) => readValueFrom lookup s cs
    | some (false, s) => s.finish lookup

/-- The value that a text denotes. -/
def readValue (lookup : String → String) (cs : List Char) : Option String :=
  readValueFrom lookup ⟨false, false, false, false, .off, [], []⟩ cs

/-! ## Assignments -/

/-- A character that a key may have after its first. -/
def isKeyChar (c : Char) : Bool :=
  c.isAlphanum || c = '_' || c = '.'

/-- Reads a key and the blank space after it. -/
def readKey : List Char → Option (String × List Char)
  | [] => none
  | c :: cs =>
    if c.isAlpha ∨ c = '_' then
      some (String.ofList (c :: cs.takeWhile isKeyChar), trimStart (cs.dropWhile isKeyChar))
    else none

/-- Reads an equals sign and the blank space after it. -/
def readEquals : List Char → Option (List Char)
  | '=' :: cs => some (trimStart cs)
  | _ => none

/-- What a line says: nothing, or that a key has a value; `none` if it cannot be read. -/
def readAssignment (lookup : String → String) (line : List Char) :
    Option (Option (String × String)) :=
  match trimStart (trimEnd line) with
  | [] => some none
  | '#' :: _ => some none
  | cs => do
    let (key, cs) ← readKey cs
    let (key, cs) ←
      if key = "export" then
        match readEquals cs with
        | some cs => some (key, cs)
        | none => do
          let (key, cs) ← readKey cs
          some (key, ← readEquals cs)
      else some (key, ← readEquals cs)
    match cs with
    | [] => some (some (key, ""))
    | '#' :: _ => some (some (key, ""))
    | cs => some (some (key, ← readValue lookup cs))

/-- Sets a variable that is not set yet; `none` if its value cannot be held. -/
def assign (environment : Variables) (key value : String) : Option Variables :=
  if (environment.value? key).isSome then some environment
  else if '\x00' ∈ value.toList then none
  else some (environment ++ [(key, value)])

/-- Carries out lines one after another. `assigned` holds what the lines before have said, the last
line first. -/
def carryOut (environment assigned : Variables) : List (Option (List Char)) → Option Variables
  | [] => some environment
  | none :: _ => some environment
  | some line :: lines =>
    let lookup (name : String) : String :=
      ((environment.value? name).or (assigned.lookup name)).getD ""
    match readAssignment lookup line with
    | none => some environment
    | some none => carryOut environment assigned lines
    | some (some (key, value)) =>
      match assign environment key value with
      | none => none
      | some environment => carryOut environment ((key, value) :: assigned) lines

/-- The text without a byte order mark. -/
def dropMark : List Char → List Char
  | '\uFEFF' :: cs => cs
  | cs => cs

/-- An environment after a file was read into it; `none` if the file has a value that cannot be
held for a variable that is not set. -/
def load (environment : Variables) (file : String) : Option Variables :=
  let cs := dropMark file.toList
  carryOut environment [] (logicalLines .plain [] (physicalLines cs.length cs))

/-- The runs of characters of a class. -/
def runsOf (isPart : Char → Bool) (cs : List Char) : List (List Char) :=
  splitAll '\n' (cs.map fun c => if isPart c then c else '\n')

/-- All texts in a file that could name a variable: keys, names after a dollar sign, and whatever
stands between braces. -/
def mentioned (file : String) : List String :=
  let cs := file.toList
  (runsOf isKeyChar cs ++ runsOf isAlphanumeric cs ++
    runsOf (fun c => c ≠ '\x7b' && c ≠ '\x7d') cs).map String.ofList

end EnvFile

end Handoff
