import Handoff.Proofs.Text.Decimal
/-!
# Which texts are numbers

Decimal text may start with zeros and, where the reader wants it so, with a sign. The grammar says
which number a text spells; the readers accept what it spells within their range, and nothing else.

* `AllDigits`, `SpellsNat`, `SpellsInt`: the grammar of numbers in text.
* `readDigits_cons_eq_ok_iff`, `readDigits_eq_ok_iff`: what a digit is read as, and what a run of
  digits is, from any digits before it.
* `readNatural_eq_ok_iff`, `readInteger_eq_ok_iff`, `readInt64_eq_ok_iff`: **a text is read as a number
  exactly if it spells that number and the number is in range.**
* `Id.ofText_eq_ok_iff`: so is an id, with blank space around it.
-/

namespace Handoff.Text

/-! ## The grammar -/

/-- At least one character, and decimal digits only. -/
def AllDigits (cs : List Char) : Prop :=
  cs ≠ [] ∧ ∀ c ∈ cs, c.isDigit = true

/-- A natural number is spelled by digits, perhaps with a plus in front. -/
inductive SpellsNat : List Char → Nat → Prop where
  | digits {cs : List Char} (h : AllDigits cs) : SpellsNat cs (Nat.ofDigitChars 10 cs 0)
  | plus {cs : List Char} (h : AllDigits cs) : SpellsNat ('+' :: cs) (Nat.ofDigitChars 10 cs 0)

/-- An integer is spelled as a natural number, or by digits with a hyphen in front. -/
inductive SpellsInt : List Char → Int → Prop where
  | natural {cs : List Char} {n : Nat} (h : SpellsNat cs n) : SpellsInt cs n
  | minus {cs : List Char} (h : AllDigits cs) : SpellsInt ('-' :: cs) (-(Nat.ofDigitChars 10 cs 0 : Int))

theorem AllDigits.notMem {cs : List Char} (h : AllDigits cs) {c : Char} (hc : c.isDigit = false) :
    c ∉ cs := by
  intro hmem
  rw [h.2 c hmem] at hc
  cases hc

theorem spellsNat_plus_iff {cs : List Char} {n : Nat} :
    SpellsNat ('+' :: cs) n ↔ AllDigits cs ∧ Nat.ofDigitChars 10 cs 0 = n := by
  constructor
  · intro h
    cases h with
    | digits h => exact absurd List.mem_cons_self (h.notMem (by decide))
    | plus h => exact ⟨h, rfl⟩
  · rintro ⟨h, rfl⟩
    exact .plus h

theorem spellsNat_iff_of_ne_plus {cs : List Char} {n : Nat} (hne : ∀ ds, cs ≠ '+' :: ds) :
    SpellsNat cs n ↔ AllDigits cs ∧ Nat.ofDigitChars 10 cs 0 = n := by
  constructor
  · intro h
    cases h with
    | digits h => exact ⟨h, rfl⟩
    | plus h => exact absurd rfl (hne _)
  · rintro ⟨h, rfl⟩
    exact .digits h

theorem spellsInt_minus_iff {cs : List Char} {i : Int} :
    SpellsInt ('-' :: cs) i ↔ AllDigits cs ∧ -(Nat.ofDigitChars 10 cs 0 : Int) = i := by
  constructor
  · intro h
    cases h with
    | natural h =>
      rw [spellsNat_iff_of_ne_plus (fun ds heq => absurd (List.cons.inj heq).1 (by decide))] at h
      exact absurd List.mem_cons_self (h.1.notMem (by decide))
    | minus h => exact ⟨h, rfl⟩
  · rintro ⟨h, rfl⟩
    exact .minus h

theorem spellsInt_iff_of_ne_minus {cs : List Char} {i : Int} (hne : ∀ ds, cs ≠ '-' :: ds) :
    SpellsInt cs i ↔ ∃ n : Nat, SpellsNat cs n ∧ (n : Int) = i := by
  constructor
  · intro h
    cases h with
    | natural h => exact ⟨_, h, rfl⟩
    | minus h => exact absurd rfl (hne _)
  · rintro ⟨n, h, rfl⟩
    exact .natural h

/-! ## The readers -/

theorem digit?_eq_some_iff {c : Char} {d : Nat} :
    digit? c = some d ↔ c.isDigit = true ∧ c.toNat - 48 = d := by
  unfold digit?
  rw [isDigit_iff]
  split
  · rename_i h
    simp [h]
  · rename_i h
    simp [h]

theorem digit?_eq_none_iff {c : Char} : digit? c = none ↔ c.isDigit = false := by
  unfold digit?
  rw [← Bool.not_eq_true, isDigit_iff]
  simp

/-- A character leads from digits of the value `acc` to a value within the limit. -/
def Advances (limit acc : Nat) (c : Char) : Prop :=
  c.isDigit = true ∧ 10 * acc + (c.toNat - 48) ≤ limit

/-- One character is read, and then the others. -/
theorem readDigits_cons_eq_ok_iff {limit : Nat} {beyond : IntegerFault} {c : Char} {cs : List Char}
    {acc n : Nat} :
    readDigits limit beyond acc (c :: cs) = .ok n ↔
      Advances limit acc c ∧ readDigits limit beyond (10 * acc + (c.toNat - 48)) cs = .ok n := by
  simp only [readDigits, Advances, Nat.mul_comm acc 10]
  split
  · rename_i hc
    simp [digit?_eq_none_iff.1 hc]
  · rename_i d hc
    obtain ⟨hdigit, rfl⟩ := digit?_eq_some_iff.1 hc
    split
    · rename_i hle
      simp [hdigit, hle]
    · rename_i hlt
      simp [hlt]

/-- What a run of digits is read as, after digits of the value `acc`: the value stays within the
limit at every digit exactly if it does so at the last one. -/
theorem readDigits_eq_ok_iff {limit : Nat} {beyond : IntegerFault} {cs : List Char} {acc n : Nat}
    (hacc : acc ≤ limit) :
    readDigits limit beyond acc cs = .ok n ↔
      (∀ c ∈ cs, c.isDigit = true) ∧ Nat.ofDigitChars 10 cs acc = n ∧ n ≤ limit := by
  constructor
  · intro h
    induction cs generalizing acc with
    | nil =>
      cases h
      exact ⟨by simp, rfl, hacc⟩
    | cons c cs ih =>
      obtain ⟨⟨hdigit, hstep⟩, hread⟩ := readDigits_cons_eq_ok_iff.1 h
      obtain ⟨hcs, hvalue, hn⟩ := ih hstep hread
      refine ⟨List.forall_mem_cons.2 ⟨hdigit, hcs⟩, ?_, hn⟩
      rw [Nat.ofDigitChars_cons]
      exact hvalue
  · rintro ⟨hdigits, rfl, hn⟩
    exact readDigits_eq hdigits hn

theorem readMagnitude_eq_ok_iff {limit : Nat} {beyond : IntegerFault} {cs : List Char} {n : Nat} :
    readMagnitude limit beyond cs = .ok n ↔
      AllDigits cs ∧ Nat.ofDigitChars 10 cs 0 = n ∧ n ≤ limit := by
  cases cs with
  | nil => simp [readMagnitude, AllDigits]
  | cons c cs =>
    show readDigits limit beyond 0 (c :: cs) = .ok n ↔ _
    rw [readDigits_eq_ok_iff (Nat.zero_le limit)]
    simp [AllDigits]

/-- **A natural number is read exactly if the text spells it and it is in range.** -/
theorem readNatural_eq_ok_iff {highest : Nat} {cs : List Char} {n : Nat} :
    readNatural highest cs = .ok n ↔ SpellsNat cs n ∧ n ≤ highest := by
  unfold readNatural
  split
  · rw [spellsNat_iff_of_ne_plus (by simp)]
    simp [AllDigits]
  · rw [readMagnitude_eq_ok_iff, spellsNat_plus_iff, and_assoc]
  · rename_i hplus
    rw [readMagnitude_eq_ok_iff, spellsNat_iff_of_ne_plus hplus, and_assoc]

theorem map_eq_ok_iff {α β : Type} {x : Except IntegerFault α} {f : α → β} {b : β} :
    x.map f = .ok b ↔ ∃ a, x = .ok a ∧ f a = b := by
  cases x <;> simp [Except.map]

theorem map_eq_error_iff {α β : Type} {x : Except IntegerFault α} {f : α → β}
    {fault : IntegerFault} : x.map f = .error fault ↔ x = .error fault := by
  cases x <;> simp [Except.map]

/-- **An integer is read exactly if the text spells it and it is in range.** -/
theorem readInteger_eq_ok_iff {lowest highest : Nat} {cs : List Char} {i : Int} :
    readInteger lowest highest cs = .ok i ↔
      SpellsInt cs i ∧ -(lowest : Int) ≤ i ∧ i ≤ highest := by
  -- without a hyphen the text spells a natural number, which no lower end of a range cuts off
  have hnatural : ∀ ds : List Char, (∀ es, ds ≠ '-' :: es) →
      ((∃ n, SpellsNat ds n ∧ n ≤ highest ∧ (n : Int) = i) ↔
        SpellsInt ds i ∧ -(lowest : Int) ≤ i ∧ i ≤ highest) := by
    intro ds hds
    rw [spellsInt_iff_of_ne_minus hds]
    constructor
    · rintro ⟨n, hn, hle, rfl⟩
      exact ⟨⟨n, hn, rfl⟩, by omega, by omega⟩
    · rintro ⟨⟨n, hn, rfl⟩, -, hle⟩
      exact ⟨n, hn, by omega, rfl⟩
  unfold readInteger
  split
  · rw [← hnatural [] (by simp)]
    simp only [reduceCtorEq, false_iff, not_exists]
    rintro n ⟨h, -⟩
    rw [spellsNat_iff_of_ne_plus (by simp)] at h
    exact h.1.1 rfl
  · rw [← hnatural _ (by simp), map_eq_ok_iff]
    simp only [readMagnitude_eq_ok_iff, spellsNat_plus_iff, and_assoc]
    rfl
  · rw [map_eq_ok_iff, spellsInt_minus_iff]
    simp only [readMagnitude_eq_ok_iff, Int.ofNat_eq_natCast]
    constructor
    · rintro ⟨n, ⟨hdigits, rfl, hle⟩, rfl⟩
      exact ⟨⟨hdigits, rfl⟩, by omega, by omega⟩
    · rintro ⟨⟨hdigits, rfl⟩, hle, -⟩
      exact ⟨_, ⟨hdigits, rfl, by omega⟩, rfl⟩
  · rename_i hplus hminus
    rw [← hnatural _ hminus, map_eq_ok_iff]
    simp only [readMagnitude_eq_ok_iff, spellsNat_iff_of_ne_plus hplus, and_assoc]
    rfl

/-! ## Numbers of 64 bits -/

/-- The integers of 64 bits. -/
def Fits64 (i : Int) : Prop :=
  -9223372036854775808 ≤ i ∧ i ≤ 9223372036854775807

theorem fits64_toInt (v : Int64) : Fits64 v.toInt :=
  ⟨Int64.minValue_le_toInt v, Int64.toInt_le v⟩

theorem Fits64.toInt_ofInt {i : Int} (h : Fits64 i) : (Int64.ofInt i).toInt = i := by
  obtain ⟨hl, hh⟩ := h
  exact Int64.toInt_ofInt_of_le (by omega) (by omega)

/-- **A number of 64 bits is read exactly if the text spells it.** -/
theorem readInt64_eq_ok_iff {cs : List Char} {v : Int64} :
    readInt64 cs = .ok v ↔ SpellsInt cs v.toInt := by
  obtain ⟨hl, hh⟩ := fits64_toInt v
  unfold readInt64
  rw [map_eq_ok_iff]
  constructor
  · rintro ⟨i, hi, rfl⟩
    obtain ⟨hspells, hlow, hhigh⟩ := readInteger_eq_ok_iff.1 hi
    have hfits : Fits64 i := ⟨by omega, by omega⟩
    rw [hfits.toInt_ofInt]
    exact hspells
  · intro hspells
    refine ⟨v.toInt, readInteger_eq_ok_iff.2 ⟨hspells, by omega, by omega⟩, ?_⟩
    exact Int64.ofInt_toInt v

/-- Some number of 64 bits is read exactly if the text spells an integer of 64 bits. -/
theorem exists_readInt64_iff {cs : List Char} :
    (∃ v, readInt64 cs = .ok v) ↔ ∃ i, SpellsInt cs i ∧ Fits64 i := by
  constructor
  · rintro ⟨v, hv⟩
    exact ⟨v.toInt, readInt64_eq_ok_iff.1 hv, fits64_toInt v⟩
  · rintro ⟨i, hi, hfits⟩
    refine ⟨Int64.ofInt i, readInt64_eq_ok_iff.2 ?_⟩
    rw [hfits.toInt_ofInt]
    exact hi

end Handoff.Text

namespace Handoff.Id

open Text

variable {kind : IdKind} {cs : List Char}

/-- **An id is read exactly if the text, blank space around it left aside, spells it.** -/
theorem ofText_eq_ok_iff {id : Id kind} :
    ofText cs = .ok id ↔ SpellsInt (trim cs) id.toInt := by
  unfold ofText
  rw [map_eq_ok_iff]
  constructor
  · rintro ⟨v, hv, rfl⟩
    exact readInt64_eq_ok_iff.1 hv
  · intro h
    exact ⟨id.value, readInt64_eq_ok_iff.2 h, rfl⟩

end Handoff.Id
