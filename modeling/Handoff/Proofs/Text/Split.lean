import Handoff.Text.Split
/-!
# Cutting is the inverse of joining

* `splitFirst_eq_iff`: what a text is cut into at its first separators is told by the parts alone.
* `splitAll_eq_iff`: so is what it is cut into at every separator.
* `mem_join`: what stands in a part stands in the text.
-/

namespace Handoff.Text

variable {sep : Char}

/-! ## The first separators -/

/-- Parts that are joined by a separator come apart again; the last one may hold separators. -/
theorem splitFirst_join {parts : List (List Char)} (h : ∀ part ∈ parts, sep ∉ part)
    (last : List Char) :
    splitFirst sep parts.length (join sep (parts ++ [last])) = parts ++ [last] := by
  induction parts with
  | nil => cases last <;> rfl
  | cons part parts ih =>
    have hpart : sep ∉ part := h part (by simp)
    have hparts : ∀ p ∈ parts, sep ∉ p := fun p hp => h p (by simp [hp])
    rw [List.cons_append, join_cons (by simp), List.length_cons, splitFirst_append hpart, ih hparts]

/-- A text has a part in front of its first separator, or no separator at all. -/
theorem splitFirst_succ (sep : Char) (n : Nat) (cs : List Char) :
    (∃ part rest, sep ∉ part ∧ splitFirst sep (n + 1) cs = part :: splitFirst sep n rest) ∨
    splitFirst sep (n + 1) cs = [cs] := by
  induction cs with
  | nil => exact .inr rfl
  | cons c cs ih =>
    by_cases hc : c = sep
    · exact .inl ⟨[], cs, List.not_mem_nil, by simp [splitFirst, hc]⟩
    rcases ih with ⟨part, rest, hpart, hsplit⟩ | hsplit
    · refine .inl ⟨c :: part, rest, ?_, by simp [splitFirst, hc, hsplit, consHead]⟩
      simpa [hpart] using Ne.symm hc
    · exact .inr (by simp [splitFirst, hc, hsplit, consHead])

/-- The parts that a text is cut into at its first separators, where it has as many: joined they are
the text, and only the last of them may hold separators. -/
theorem splitFirst_eq_iff {n : Nat} {cs last : List Char} {parts : List (List Char)}
    (hn : parts.length = n) :
    splitFirst sep n cs = parts ++ [last] ↔
      join sep (parts ++ [last]) = cs ∧ ∀ part ∈ parts, sep ∉ part := by
  constructor
  · intro h
    refine ⟨by rw [← h, join_splitFirst], ?_⟩
    induction n generalizing cs parts with
    | zero =>
      rw [List.length_eq_zero_iff.1 hn]
      exact fun part hpart => absurd hpart List.not_mem_nil
    | succ n ih =>
      obtain ⟨first, parts, rfl⟩ := List.exists_cons_of_length_eq_add_one hn
      rcases splitFirst_succ sep n cs with ⟨part, rest, hpart, hsplit⟩ | hsplit
      · rw [hsplit, List.cons_append, List.cons.injEq] at h
        obtain ⟨rfl, hrest⟩ := h
        exact List.forall_mem_cons.2 ⟨hpart, ih (by simpa using hn) hrest⟩
      · rw [hsplit] at h
        simp at h
  · rintro ⟨rfl, hparts⟩
    rw [← hn, splitFirst_join hparts]

/-! ## Every separator -/

theorem consHead_append {c : Char} {parts : List (List Char)} (h : parts ≠ [])
    (more : List (List Char)) : consHead c (parts ++ more) = consHead c parts ++ more := by
  cases parts with
  | nil => exact absurd rfl h
  | cons part parts => rfl

/-- What stands in front of a separator and what stands behind it are cut each on its own. -/
theorem splitAll_append (cs ds : List Char) :
    splitAll sep (cs ++ sep :: ds) = splitAll sep cs ++ splitAll sep ds := by
  induction cs with
  | nil => simp [splitAll]
  | cons c cs ih =>
    simp only [List.cons_append, splitAll]
    split
    · rw [ih, List.cons_append]
    · rw [ih, consHead_append (splitAll_ne_nil sep cs)]

theorem splitAll_of_notMem {cs : List Char} (h : sep ∉ cs) : splitAll sep cs = [cs] := by
  induction cs with
  | nil => rfl
  | cons c cs ih =>
    have hc : c ≠ sep := fun e => h (by simp [e])
    have hcs : sep ∉ cs := fun e => h (by simp [e])
    simp [splitAll, hc, ih hcs, consHead]

/-- Parts that are joined by a separator that they do not hold come apart again. -/
theorem splitAll_join {parts : List (List Char)} (hne : parts ≠ [])
    (h : ∀ part ∈ parts, sep ∉ part) : splitAll sep (join sep parts) = parts := by
  induction parts with
  | nil => exact absurd rfl hne
  | cons part parts ih =>
    have hpart : sep ∉ part := h part (by simp)
    cases parts with
    | nil => exact splitAll_of_notMem hpart
    | cons next parts =>
      rw [join_cons (by simp), splitAll_append, splitAll_of_notMem hpart,
        ih (by simp) fun p hp => h p (by simp [hp])]
      rfl

/-- No part holds a separator. -/
theorem notMem_splitAll {cs part : List Char} (h : part ∈ splitAll sep cs) : sep ∉ part := by
  induction cs generalizing part with
  | nil =>
    rw [List.mem_singleton.1 h]
    exact List.not_mem_nil
  | cons c cs ih =>
    simp only [splitAll] at h
    split at h
    · rcases List.mem_cons.1 h with rfl | h
      · exact List.not_mem_nil
      · exact ih h
    · rename_i hc
      cases hsplit : splitAll sep cs with
      | nil => exact absurd hsplit (splitAll_ne_nil sep cs)
      | cons first parts =>
        rw [hsplit] at h ih
        rcases List.mem_cons.1 h with rfl | h
        · simpa [ih List.mem_cons_self] using Ne.symm hc
        · exact ih (List.mem_cons_of_mem _ h)

/-- The parts that a text is cut into at every separator: joined they are the text, and none of them
holds a separator. -/
theorem splitAll_eq_iff {cs : List Char} {parts : List (List Char)} :
    splitAll sep cs = parts ↔
      parts ≠ [] ∧ join sep parts = cs ∧ ∀ part ∈ parts, sep ∉ part := by
  constructor
  · rintro rfl
    exact ⟨splitAll_ne_nil sep cs, join_splitAll sep cs, fun part => notMem_splitAll⟩
  · rintro ⟨hne, rfl, hparts⟩
    exact splitAll_join hne hparts

/-- What stands in a part stands in the text. -/
theorem mem_join {parts : List (List Char)} {part : List Char} (h : part ∈ parts) {c : Char}
    (hc : c ∈ part) : c ∈ join sep parts := by
  induction parts with
  | nil => cases h
  | cons first parts ih =>
    cases parts with
    | nil =>
      rw [List.mem_singleton.1 h] at hc
      exact hc
    | cons next parts =>
      rw [join_cons (by simp), List.mem_append, List.mem_cons]
      rcases List.mem_cons.1 h with rfl | h
      · exact .inl hc
      · exact .inr (.inr (ih h))

end Handoff.Text
