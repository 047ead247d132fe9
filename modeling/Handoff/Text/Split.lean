/-!
# Splitting at a separator

* `splitAll` cuts at every separator, `splitFirst` at the first `n` of them only, so that the last
  part may hold separators of its own.
* `join_splitAll`, `join_splitFirst`: the parts, joined by the separator, are the text again.
-/

namespace Handoff.Text

/-- A character in front of the first part. -/
def consHead (c : Char) : List (List Char) → List (List Char)
  | [] => [[c]]
  | part :: parts => (c :: part) :: parts

/-- The parts between all separators; there is always one more of them than of separators. -/
def splitAll (sep : Char) : List Char → List (List Char)
  | [] => [[]]
  | c :: cs => if c = sep then [] :: splitAll sep cs else consHead c (splitAll sep cs)

/-- The parts between the first `n` separators; the last part is the remainder as it stands. -/
def splitFirst (sep : Char) : Nat → List Char → List (List Char)
  | 0, cs => [cs]
  | _ + 1, [] => [[]]
  | n + 1, c :: cs =>
    if c = sep then [] :: splitFirst sep n cs else consHead c (splitFirst sep (n + 1) cs)

/-- Parts with the separator between them. -/
def join (sep : Char) : List (List Char) → List Char
  | [] => []
  | [part] => part
  | part :: next :: parts => part ++ sep :: join sep (next :: parts)

theorem splitAll_ne_nil (sep : Char) (cs : List Char) : splitAll sep cs ≠ [] := by
  induction cs with
  | nil => simp [splitAll]
  | cons c cs ih =>
    simp only [splitAll]
    split
    · simp
    · cases h : splitAll sep cs with
      | nil => exact absurd h ih
      | cons p ps => simp [consHead]

theorem splitFirst_ne_nil (sep : Char) (n : Nat) (cs : List Char) : splitFirst sep n cs ≠ [] := by
  induction cs generalizing n with
  | nil => cases n <;> simp [splitFirst]
  | cons c cs ih =>
    cases n with
    | zero => simp [splitFirst]
    | succ n =>
      simp only [splitFirst]
      split
      · simp
      · cases h : splitFirst sep (n + 1) cs with
        | nil => exact absurd h (ih _)
        | cons p ps => simp [consHead]

theorem join_cons {sep : Char} {part : List Char} {parts : List (List Char)} (h : parts ≠ []) :
    join sep (part :: parts) = part ++ sep :: join sep parts := by
  cases parts with
  | nil => exact absurd rfl h
  | cons p ps => rfl

theorem join_consHead {sep c : Char} {parts : List (List Char)} (h : parts ≠ []) :
    join sep (consHead c parts) = c :: join sep parts := by
  match parts, h with
  | [p], _ => rfl
  | p :: q :: ps, _ => rfl

/-- Cutting at every separator loses nothing. -/
theorem join_splitAll (sep : Char) (cs : List Char) : join sep (splitAll sep cs) = cs := by
  induction cs with
  | nil => rfl
  | cons c cs ih =>
    simp only [splitAll]
    split
    · next h => rw [join_cons (splitAll_ne_nil sep cs), ih, h]; rfl
    · rw [join_consHead (splitAll_ne_nil sep cs), ih]

/-- Cutting at the first separators loses nothing. -/
theorem join_splitFirst (sep : Char) (n : Nat) (cs : List Char) :
    join sep (splitFirst sep n cs) = cs := by
  induction cs generalizing n with
  | nil => cases n <;> rfl
  | cons c cs ih =>
    cases n with
    | zero => rfl
    | succ n =>
      simp only [splitFirst]
      split
      · next h => rw [join_cons (splitFirst_ne_nil sep n cs), ih, h]; rfl
      · rw [join_consHead (splitFirst_ne_nil sep _ cs), ih]

/-- A part without separators in front of a separator is cut off whole. -/
theorem splitFirst_append {sep : Char} {part : List Char} (h : sep ∉ part) (n : Nat)
    (cs : List Char) :
    splitFirst sep (n + 1) (part ++ sep :: cs) = part :: splitFirst sep n cs := by
  induction part with
  | nil => simp [splitFirst]
  | cons c part ih =>
    have hc : c ≠ sep := fun e => h (by simp [e])
    have hp : sep ∉ part := fun e => h (by simp [e])
    simp [splitFirst, hc, ih hp, consHead]

end Handoff.Text
