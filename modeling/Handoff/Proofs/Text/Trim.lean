import Handoff.Text.Blank
/-!
# Text without the blank space around it

* `Stripped`: the body of a text, told without the reader: blank space stands around it, and all of
  that space is gone.
* `isBlank_head_trim`, `isBlank_getLast_trim`: a trimmed text has no blank character at its ends.
* `trim_eq_iff`: **what a text trims to is its body**; so a text without blanks is left as it is
  (`trim_eq_self`).
-/

namespace Handoff.Text

variable {cs body : List Char} {c : Char}

/-- The text is the body with blank space around it, and no more of that space is left at either end
of the body. -/
structure Stripped (cs body : List Char) : Prop where
  around : ∃ before after, cs = before ++ (body ++ after) ∧ allBlank before = true ∧
    allBlank after = true
  head : ∀ c, body.head? = some c → isBlank c = false
  last : ∀ c, body.getLast? = some c → isBlank c = false

theorem exists_blank_trimStart (cs : List Char) :
    ∃ before, cs = before ++ trimStart cs ∧ allBlank before = true :=
  ⟨cs.takeWhile isBlank, List.takeWhile_append_dropWhile.symm, List.all_takeWhile⟩

theorem exists_blank_trimEnd (cs : List Char) :
    ∃ after, cs = trimEnd cs ++ after ∧ allBlank after = true := by
  obtain ⟨before, hcs, hblank⟩ := exists_blank_trimStart cs.reverse
  refine ⟨before.reverse, ?_, by simpa [allBlank] using hblank⟩
  have hreverse := congrArg List.reverse hcs
  rwa [List.reverse_reverse, List.reverse_append] at hreverse

/-- A trimmed text ends with no blank character. -/
theorem isBlank_getLast_trim (h : (trim cs).getLast? = some c) : isBlank c = false := by
  have hhead : (trimStart (trimStart cs).reverse).head? = some c := by
    rwa [trim, trimEnd, List.getLast?_reverse] at h
  obtain ⟨rest, hrest⟩ := List.head?_eq_some_iff.1 hhead
  exact isBlank_head_trimStart hrest

/-- A trimmed text starts with no blank character. -/
theorem isBlank_head_trim (h : (trim cs).head? = some c) : isBlank c = false := by
  -- what is cut off at the end leaves the start as it is
  obtain ⟨after, hafter, -⟩ := exists_blank_trimEnd (trimStart cs)
  obtain ⟨rest, hrest⟩ := List.head?_eq_some_iff.1 h
  exact isBlank_head_trimStart (hafter.trans (congrArg (· ++ after) hrest))

theorem trimStart_eq_self (h : ∀ c, cs.head? = some c → isBlank c = false) : trimStart cs = cs := by
  cases cs with
  | nil => rfl
  | cons c cs => rw [trimStart, List.dropWhile_cons_of_neg (by simp [h c rfl])]

theorem trimEnd_eq_self (h : ∀ c, cs.getLast? = some c → isBlank c = false) : trimEnd cs = cs := by
  have hreverse : trimStart cs.reverse = cs.reverse :=
    trimStart_eq_self fun c hc => h c (by rwa [List.head?_reverse] at hc)
  rw [trimEnd, ← trimStart, hreverse, List.reverse_reverse]

theorem stripped_trim (cs : List Char) : Stripped cs (trim cs) := by
  obtain ⟨before, hbefore, hblank⟩ := exists_blank_trimStart cs
  obtain ⟨after, hafter, hblank'⟩ := exists_blank_trimEnd (trimStart cs)
  refine ⟨⟨before, after, ?_, hblank, hblank'⟩, fun c => isBlank_head_trim,
    fun c => isBlank_getLast_trim⟩
  calc cs = before ++ trimStart cs := hbefore
    _ = before ++ (trim cs ++ after) := congrArg (before ++ ·) hafter

/-- **What a text trims to is its body**, and it has no other. -/
theorem trim_eq_iff : trim cs = body ↔ Stripped cs body := by
  constructor
  · rintro rfl
    exact stripped_trim cs
  · rintro ⟨⟨before, after, rfl, hbefore, hafter⟩, hhead, hlast⟩
    rw [trim_blank_append hbefore, trim_append_blank hafter, trim, trimStart_eq_self hhead,
      trimEnd_eq_self hlast]

/-- Nothing is trimmed off a text without blanks. -/
theorem trim_eq_self (h : ∀ c ∈ cs, isBlank c = false) : trim cs = cs := by
  refine trim_eq_iff.2 ⟨⟨[], [], by simp, rfl, rfl⟩, fun c hc => h c ?_, fun c hc => h c ?_⟩
  · exact List.mem_of_head? hc
  · exact List.mem_of_getLast? hc

end Handoff.Text
