import Handoff.Ident
import Handoff.Proofs.Text.Trim
/-!
# Decimal text

A number is read back from its decimal text. The value of a run of digits is `Nat.ofDigitChars 10`,
for every reader of digits alike.

* `readDigits_eq`: a run of digits is read as its value, if that stays within the limit.
* `readNatural_toDigits`, `readInteger_showInt`, `readInt64_showInt`: **a number within the range is
  read from its text.**
* `notMem_showInt`: what the text of a number is free of, so that it can be told from what stands
  around it.
* `Id.ofText_padded`: **an id is read from its digits, whatever blank space stands around them**;
  `Id.digits_inj`: so different ids have different digits.
-/

namespace Handoff.Text

/-! ## Digits -/

theorem isDigit_iff {c : Char} : c.isDigit = true ↔ '0' ≤ c ∧ c ≤ '9' := by
  simp [Char.isDigit, Char.le_def, UInt32.le_iff_toNat_le]

theorem digit?_of_isDigit {c : Char} (h : c.isDigit = true) : digit? c = some (c.toNat - 48) := by
  unfold digit?
  rw [if_pos (isDigit_iff.1 h)]

/-- No digit is blank. -/
theorem isBlank_of_isDigit {c : Char} (h : c.isDigit = true) : isBlank c = false := by
  obtain ⟨hl, hu⟩ := isDigit_iff.1 h
  have hl : 48 ≤ c.toNat := hl
  have hu : c.toNat ≤ 57 := hu
  unfold isBlank
  simp
  omega

/-- No digit comes first. -/
def NoDigitFirst (cs : List Char) : Prop :=
  ∀ c ∈ cs.head?, c.isDigit = false

theorem noDigitFirst_nil : NoDigitFirst [] := by
  intro c h
  cases h

theorem noDigitFirst_cons {c : Char} {cs : List Char} (h : c.isDigit = false) :
    NoDigitFirst (c :: cs) := by
  intro d hd
  cases hd
  exact h

theorem le_ofDigitChars (cs : List Char) (acc : Nat) : acc ≤ Nat.ofDigitChars 10 cs acc := by
  rw [Nat.ofDigitChars_eq_ofDigitChars_zero]
  have hpow : 0 < 10 ^ cs.length := Nat.pow_pos (by decide)
  have hmul : acc ≤ 10 ^ cs.length * acc := Nat.le_mul_of_pos_left acc hpow
  omega

/-- A run of digits is read as its value, if that stays within the limit. -/
theorem readDigits_eq {limit : Nat} {beyond : IntegerFault} {cs : List Char} {acc : Nat}
    (hd : ∀ c ∈ cs, c.isDigit = true) (hv : Nat.ofDigitChars 10 cs acc ≤ limit) :
    readDigits limit beyond acc cs = .ok (Nat.ofDigitChars 10 cs acc) := by
  induction cs generalizing acc with
  | nil => rfl
  | cons c cs ih =>
    have hc : c.isDigit = true := hd c (by simp)
    have hcomm : acc * 10 + (c.toNat - 48) = 10 * acc + (c.toNat - '0'.toNat) := by
      rw [Nat.mul_comm]
      rfl
    rw [Nat.ofDigitChars_cons] at hv ⊢
    have hle := le_ofDigitChars cs (10 * acc + (c.toNat - '0'.toNat))
    simp only [readDigits, digit?_of_isDigit hc, hcomm]
    rw [if_pos (by omega)]
    exact ih (fun d hm => hd d (by simp [hm])) hv

/-! ## The digits of a number -/

theorem isDigit_toDigits {n : Nat} {c : Char} (h : c ∈ Nat.toDigits 10 n) : c.isDigit = true :=
  Nat.isDigit_of_mem_toDigits (by decide) (by decide) h

/-- The digits of a number start with a digit. -/
theorem toDigits_eq_cons (n : Nat) : ∃ c cs, Nat.toDigits 10 n = c :: cs ∧ c.isDigit = true := by
  cases h : Nat.toDigits 10 n with
  | nil => exact absurd h Nat.toDigits_ne_nil
  | cons c cs => exact ⟨c, cs, rfl, isDigit_toDigits (n := n) (by simp [h])⟩

/-- A zero stands in front of no other digit. -/
theorem eq_nil_of_toDigits_eq_zero_cons {n : Nat} {cs : List Char}
    (h : Nat.toDigits 10 n = '0' :: cs) : cs = [] := by
  induction n using Nat.strongRecOn generalizing cs with
  | _ n ih =>
    by_cases hn : n < 10
    · rw [Nat.toDigits_of_lt_base hn, List.cons.injEq] at h
      exact h.2.symm
    · -- the digits of `n / 10` start with the zero too, so that there is no other among them
      rw [Nat.toDigits_of_base_le (by decide) (by omega)] at h
      obtain ⟨c, ds, hds, -⟩ := toDigits_eq_cons (n / 10)
      rw [hds, List.cons_append, List.cons.injEq] at h
      obtain ⟨rfl, -⟩ := h
      obtain rfl := ih (n / 10) (by omega) hds
      have hzero : Nat.ofDigitChars 10 (Nat.toDigits 10 (n / 10)) 0 = 0 := by rw [hds]; rfl
      rw [Nat.ofDigitChars_ten_toDigits] at hzero
      omega

theorem readMagnitude_toDigits {limit n : Nat} (beyond : IntegerFault) (h : n ≤ limit) :
    readMagnitude limit beyond (Nat.toDigits 10 n) = .ok n := by
  obtain ⟨c, cs, hcs, -⟩ := toDigits_eq_cons n
  have hv : Nat.ofDigitChars 10 (c :: cs) 0 = n := by
    rw [← hcs]
    exact Nat.ofDigitChars_ten_toDigits
  have hd : ∀ d ∈ c :: cs, d.isDigit = true := fun d hm => isDigit_toDigits (hcs ▸ hm)
  rw [hcs]
  show readDigits limit beyond 0 (c :: cs) = .ok n
  rw [readDigits_eq hd (by omega), hv]

/-! Where no sign stands in front, the whole text is the magnitude. -/

theorem readNatural_cons {highest : Nat} {c : Char} {cs : List Char} (h : c.isDigit = true) :
    readNatural highest (c :: cs) = readMagnitude highest .tooLarge (c :: cs) := by
  unfold readNatural
  split
  · rename_i heq
    cases heq
  · rename_i heq
    cases heq
    cases h
  · rfl

theorem readInteger_cons {lowest highest : Nat} {c : Char} {cs : List Char} (h : c.isDigit = true) :
    readInteger lowest highest (c :: cs) =
      (readMagnitude highest .tooLarge (c :: cs)).map Int.ofNat := by
  unfold readInteger
  split
  · rename_i heq
    cases heq
  · rename_i heq
    cases heq
    cases h
  · rename_i heq
    cases heq
    cases h
  · rfl

/-- A natural number within the range is read from its digits. -/
theorem readNatural_toDigits {highest n : Nat} (h : n ≤ highest) :
    readNatural highest (Nat.toDigits 10 n) = .ok n := by
  rw [← readMagnitude_toDigits .tooLarge h]
  obtain ⟨c, cs, hcs, hc⟩ := toDigits_eq_cons n
  rw [hcs]
  exact readNatural_cons hc

/-! ## The text of a number -/

theorem showInt_ofNat (n : Nat) : (showInt n).toList = Nat.toDigits 10 n :=
  Nat.toList_repr

theorem showInt_negSucc (n : Nat) :
    (showInt (.negSucc n)).toList = '-' :: Nat.toDigits 10 (n + 1) := by
  simp [showInt, Nat.toList_repr]

/-- The text of a number holds digits, and a hyphen perhaps. -/
theorem mem_showInt {i : Int} {c : Char} (h : c ∈ (showInt i).toList) :
    c.isDigit = true ∨ c = '-' := by
  cases i with
  | ofNat n =>
    rw [Int.ofNat_eq_natCast, showInt_ofNat] at h
    exact .inl (isDigit_toDigits h)
  | negSucc n =>
    rw [showInt_negSucc, List.mem_cons] at h
    rcases h with h | h
    · exact .inr h
    · exact .inl (isDigit_toDigits h)

/-- A character that is no digit and no hyphen does not occur in the text of a number. -/
theorem notMem_showInt {i : Int} {c : Char} (hd : c.isDigit = false) (hc : c ≠ '-') :
    c ∉ (showInt i).toList := by
  intro h
  rcases mem_showInt h with h | h
  · rw [h] at hd
    cases hd
  · exact hc h

/-- **An integer within the range is read from its text.** -/
theorem readInteger_showInt {lowest highest : Nat} {i : Int} (hl : -(lowest : Int) ≤ i)
    (hh : i ≤ highest) : readInteger lowest highest (showInt i).toList = .ok i := by
  cases i with
  | ofNat n =>
    have hn : n ≤ highest := by simpa using hh
    have hread := readMagnitude_toDigits .tooLarge hn
    obtain ⟨c, cs, hcs, hc⟩ := toDigits_eq_cons n
    rw [hcs] at hread
    rw [Int.ofNat_eq_natCast, showInt_ofNat, hcs, readInteger_cons hc, hread]
    rfl
  | negSucc n =>
    have hn : n + 1 ≤ lowest := by omega
    rw [showInt_negSucc]
    show (readMagnitude lowest .tooSmall (Nat.toDigits 10 (n + 1))).map _ = _
    rw [readMagnitude_toDigits .tooSmall hn]
    rfl

/-- An integer of 64 bits is read from its text. -/
theorem readInt64_showInt {i : Int} (hl : -9223372036854775808 ≤ i) (hh : i ≤ 9223372036854775807) :
    readInt64 (showInt i).toList = .ok (Int64.ofInt i) := by
  unfold readInt64
  rw [readInteger_showInt (by omega) (by omega)]
  rfl

end Handoff.Text

namespace Handoff.Id

variable {kind : IdKind}

/-- An id is read from its digits. -/
theorem ofText_digits (id : Id kind) : ofText id.digits.toList = .ok id := by
  have hblank : ∀ c ∈ id.digits.toList, Text.isBlank c = false := by
    intro c hc
    rcases Text.mem_showInt hc with h | rfl
    · exact Text.isBlank_of_isDigit h
    · rfl
  unfold ofText
  rw [Text.trim_eq_self hblank]
  have hl : -9223372036854775808 ≤ id.toInt := Int64.minValue_le_toInt id.value
  have hh : id.toInt ≤ 9223372036854775807 := Int64.toInt_le id.value
  unfold digits
  rw [Text.readInt64_showInt hl hh]
  show Except.ok (Id.mk (Int64.ofInt id.value.toInt)) = _
  rw [Int64.ofInt_toInt]

/-- **Blank space around the digits of an id makes no difference.** -/
theorem ofText_padded {before after : List Char} (hbefore : Text.allBlank before = true)
    (hafter : Text.allBlank after = true) (id : Id kind) :
    ofText (before ++ (id.digits.toList ++ after)) = .ok id := by
  unfold ofText
  rw [Text.trim_blank_append hbefore, Text.trim_append_blank hafter]
  exact ofText_digits id

/-- Different ids have different digits. -/
theorem digits_inj {a b : Id kind} : a.digits = b.digits ↔ a = b := by
  constructor
  · intro h
    have hread := ofText_digits a
    rw [h, ofText_digits b] at hread
    exact (Except.ok.inj hread).symm
  · rintro rfl
    rfl

end Handoff.Id
