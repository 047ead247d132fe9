import Handoff.Proofs.Text.Numbers
/-!
# Why a text is no number

Digits are read from left to right, and the first problem that is met is reported: a character that is
no digit, or else a value out of range.

* `Sign`, `Signed`: the sign of a text, and what stands behind it.
* `Problem`, `FirstProblem`, `Refused`: what is wrong with a text, told without the readers.
* `readDigits_eq_error_iff`: the reader gets through the digits in front of the place where it fails,
  and fails because of the character there; `firstProblem_iff`: this is the first problem.
* `readInteger_eq_error_iff`, `readInt64_eq_error_iff`: **a text is refused as a number because of the
  first problem in it**, and for no other reason.
-/

namespace Handoff.Text

/-! ## What is wrong with a text -/

/-- The sign of a number. -/
inductive Sign where
  | plus
  | minus

namespace Sign

/-- The number of this sign and magnitude. -/
def apply : Sign → Nat → Int
  | plus, n => n
  | minus, n => -n

/-- The number that digits behind this sign denote. -/
def value (sign : Sign) (ds : List Char) : Int :=
  sign.apply (Nat.ofDigitChars 10 ds 0)

/-- The largest magnitude of the range `-lowest .. highest` on this side of zero. -/
def limit (lowest highest : Nat) : Sign → Nat
  | plus => highest
  | minus => lowest

/-- The fault of a number that leaves the range on this side of zero. -/
def beyond : Sign → IntegerFault
  | plus => .tooLarge
  | minus => .tooSmall

end Sign

variable {sign : Sign} {limit lowest highest acc n : Nat} {beyond fault : IntegerFault}
variable {cs ds : List Char} {c : Char}

/-- The sign of a text, and what stands behind it. A text that starts with no sign is positive. -/
inductive Signed : List Char → Sign → List Char → Prop where
  | plus (ds : List Char) : Signed ('+' :: ds) .plus ds
  | minus (ds : List Char) : Signed ('-' :: ds) .minus ds
  | unsigned {ds : List Char} (hplus : ∀ es, ds ≠ '+' :: es) (hminus : ∀ es, ds ≠ '-' :: es) :
      Signed ds .plus ds

/-- What is wrong with a character behind the digits `before`: it is no digit, or else the number that
it leads to is out of the range `-lowest .. highest`. -/
inductive Problem (lowest highest : Nat) (sign : Sign) (before : List Char) (c : Char) :
    IntegerFault → Prop where
  | noDigit (hc : c.isDigit = false) : Problem lowest highest sign before c .invalidDigit
  | above (hc : c.isDigit = true) (h : (highest : Int) < sign.value (before ++ [c])) :
      Problem lowest highest sign before c .tooLarge
  | below (hc : c.isDigit = true) (h : sign.value (before ++ [c]) < -(lowest : Int)) :
      Problem lowest highest sign before c .tooSmall

/-- The first problem that is met when what stands behind a sign is read from left to right. -/
def FirstProblem (lowest highest : Nat) (sign : Sign) (ds : List Char) (fault : IntegerFault) : Prop :=
  ∃ before c after, ds = before ++ c :: after ∧ Problem lowest highest sign before c fault ∧
    ∀ earlier d later, before = earlier ++ d :: later →
      ∀ fault', ¬ Problem lowest highest sign earlier d fault'

/-- Why a text is no number of the range `-lowest .. highest`: there is nothing to read, or nothing
behind the sign, or else a first problem. -/
inductive Refused (lowest highest : Nat) : List Char → IntegerFault → Prop where
  | empty : Refused lowest highest [] .empty
  | loneSign {c : Char} (h : c = '+' ∨ c = '-') : Refused lowest highest [c] .invalidDigit
  | problem {cs ds : List Char} {sign : Sign} {fault : IntegerFault} (hsign : Signed cs sign ds)
      (h : FirstProblem lowest highest sign ds fault) : Refused lowest highest cs fault

/-! ## Where the reader fails -/

/-- A character cannot be read behind digits of the value `acc`. -/
def Fails (limit : Nat) (beyond : IntegerFault) (acc : Nat) (c : Char) (fault : IntegerFault) : Prop :=
  c.isDigit = false ∧ fault = .invalidDigit ∨
    c.isDigit = true ∧ limit < 10 * acc + (c.toNat - 48) ∧ fault = beyond

/-- The reader fails at the first character, or reads it and fails later. -/
theorem readDigits_cons_eq_error_iff :
    readDigits limit beyond acc (c :: cs) = .error fault ↔
      Fails limit beyond acc c fault ∨
        Advances limit acc c ∧
          readDigits limit beyond (10 * acc + (c.toNat - 48)) cs = .error fault := by
  simp only [readDigits, Advances, Fails, Nat.mul_comm acc 10]
  split
  · rename_i hc
    simp [digit?_eq_none_iff.1 hc, eq_comm]
  · rename_i d hc
    obtain ⟨hdigit, rfl⟩ := digit?_eq_some_iff.1 hc
    split
    · rename_i hle
      simp [hdigit, hle, Nat.not_lt.2 hle]
    · rename_i hlt
      simp [hdigit, hlt, Nat.not_le.1 hlt, eq_comm]

/-- **The reader fails at one character**: it gets through what stands before it. -/
theorem readDigits_eq_error_iff :
    readDigits limit beyond acc cs = .error fault ↔
      ∃ before c after n, cs = before ++ c :: after ∧
        readDigits limit beyond acc before = .ok n ∧ Fails limit beyond n c fault := by
  induction cs generalizing acc with
  | nil => simp [readDigits]
  | cons c cs ih =>
    rw [readDigits_cons_eq_error_iff]
    simp only [ih]
    constructor
    · rintro (hfails | ⟨hc, before, d, after, n, rfl, hread, hfails⟩)
      · exact ⟨[], c, cs, acc, rfl, rfl, hfails⟩
      · exact ⟨c :: before, d, after, n, rfl, readDigits_cons_eq_ok_iff.2 ⟨hc, hread⟩, hfails⟩
    · rintro ⟨before, d, after, n, happend, hread, hfails⟩
      cases before with
      | nil =>
        obtain ⟨rfl, -⟩ := List.cons.inj happend
        cases hread
        exact .inl hfails
      | cons b before =>
        -- the first character is read, and the reader fails behind it
        obtain ⟨rfl, rfl⟩ := List.cons.inj happend
        obtain ⟨hc, hread⟩ := readDigits_cons_eq_ok_iff.1 hread
        exact .inr ⟨hc, before, d, after, n, rfl, hread, hfails⟩

/-- The reader gets through a text exactly if it fails at none of its characters. -/
theorem exists_readDigits_iff :
    (∃ n, readDigits limit beyond 0 cs = .ok n) ↔
      ∀ before c after, cs = before ++ c :: after →
        ∀ fault, ¬ Fails limit beyond (Nat.ofDigitChars 10 before 0) c fault := by
  constructor
  · rintro ⟨n, hread⟩ before c after rfl fault hfails
    obtain ⟨hdigits, hvalue, hn⟩ := (readDigits_eq_ok_iff (Nat.zero_le limit)).1 hread
    rw [Nat.ofDigitChars_append, Nat.ofDigitChars_cons] at hvalue
    change Nat.ofDigitChars 10 after (10 * Nat.ofDigitChars 10 before 0 + (c.toNat - 48)) = n at hvalue
    rcases hfails with ⟨hc, -⟩ | ⟨-, hlt, -⟩
    · have hdigit : c.isDigit = true := hdigits c (by simp)
      exact absurd hc (by simp [hdigit])
    · -- the digits behind the character only make the value larger
      have hle := le_ofDigitChars after (10 * Nat.ofDigitChars 10 before 0 + (c.toNat - 48))
      omega
  · intro hnone
    cases hread : readDigits limit beyond 0 cs with
    | ok n => exact ⟨n, rfl⟩
    | error fault =>
      obtain ⟨before, c, after, n, hcs, hbefore, hfails⟩ := readDigits_eq_error_iff.1 hread
      obtain ⟨-, rfl, -⟩ := (readDigits_eq_ok_iff (Nat.zero_le limit)).1 hbefore
      exact absurd hfails (hnone before c after hcs fault)

/-! ## The first problem -/

theorem Sign.value_concat (before : List Char) (c : Char) :
    sign.value (before ++ [c]) =
      sign.apply (10 * Nat.ofDigitChars 10 before 0 + (c.toNat - 48)) := by
  rw [Sign.value, Nat.ofDigitChars_append]
  rfl

/-- A character is a problem exactly if the reader fails at it. -/
theorem problem_iff {before : List Char} :
    Problem lowest highest sign before c fault ↔
      Fails (sign.limit lowest highest) sign.beyond (Nat.ofDigitChars 10 before 0) c fault := by
  constructor
  · intro h
    cases h with
    | noDigit hc => exact .inl ⟨hc, rfl⟩
    | above hc h =>
      -- behind a minus no number is above the range, and without one none is below it
      rw [Sign.value_concat] at h
      cases sign with
      | plus => exact .inr ⟨hc, Int.ofNat_lt.1 h, rfl⟩
      | minus => simp only [Sign.apply] at h; omega
    | below hc h =>
      rw [Sign.value_concat] at h
      cases sign with
      | plus => simp only [Sign.apply] at h; omega
      | minus => exact .inr ⟨hc, Int.ofNat_lt.1 (Int.neg_lt_neg_iff.1 h), rfl⟩
  · rintro (⟨hc, rfl⟩ | ⟨hc, hlt, rfl⟩)
    · exact .noDigit hc
    · cases sign with
      | plus => exact .above hc (Sign.value_concat before c ▸ Int.ofNat_lt.2 hlt)
      | minus => exact .below hc (Sign.value_concat before c ▸ Int.neg_lt_neg (Int.ofNat_lt.2 hlt))

/-- **The reader fails because of the first problem.** -/
theorem firstProblem_iff :
    FirstProblem lowest highest sign ds fault ↔
      readDigits (sign.limit lowest highest) sign.beyond 0 ds = .error fault := by
  -- nothing is wrong with the characters in front exactly if the reader gets through them
  unfold FirstProblem
  simp only [problem_iff, ← exists_readDigits_iff, readDigits_eq_error_iff]
  constructor
  · rintro ⟨before, c, after, hds, hfails, n, hread⟩
    obtain ⟨-, rfl, -⟩ := (readDigits_eq_ok_iff (Nat.zero_le _)).1 hread
    exact ⟨before, c, after, _, hds, hread, hfails⟩
  · rintro ⟨before, c, after, n, hds, hread, hfails⟩
    obtain ⟨-, rfl, -⟩ := (readDigits_eq_ok_iff (Nat.zero_le _)).1 hread
    exact ⟨before, c, after, hds, hfails, _, hread⟩

/-! ## Signs -/

theorem exists_signed (cs : List Char) : ∃ sign ds, Signed cs sign ds := by
  by_cases hplus : ∃ ds, cs = '+' :: ds
  · obtain ⟨ds, rfl⟩ := hplus
    exact ⟨.plus, ds, .plus ds⟩
  by_cases hminus : ∃ ds, cs = '-' :: ds
  · obtain ⟨ds, rfl⟩ := hminus
    exact ⟨.minus, ds, .minus ds⟩
  exact ⟨.plus, cs, .unsigned (not_exists.1 hplus) (not_exists.1 hminus)⟩

/-- A text has one sign. -/
theorem Signed.unique {sign' : Sign} {ds' : List Char} (h : Signed cs sign ds)
    (h' : Signed cs sign' ds') : sign = sign' ∧ ds = ds' := by
  cases h with
  | plus ds =>
    cases h' with
    | plus => exact ⟨rfl, rfl⟩
    | unsigned hplus => exact absurd rfl (hplus ds)
  | minus ds =>
    cases h' with
    | minus => exact ⟨rfl, rfl⟩
    | unsigned _ hminus => exact absurd rfl (hminus ds)
  | unsigned hplus hminus =>
    cases h' with
    | plus ds' => exact absurd rfl (hplus ds')
    | minus ds' => exact absurd rfl (hminus ds')
    | unsigned => exact ⟨rfl, rfl⟩

/-- The sign of a text says within which limit the magnitude behind it is read. -/
theorem readInteger_of_signed (h : Signed cs sign ds) (hne : cs ≠ []) :
    readInteger lowest highest cs =
      (readMagnitude (sign.limit lowest highest) sign.beyond ds).map sign.apply := by
  cases h with
  | plus ds => rfl
  | minus ds => rfl
  | unsigned hplus hminus =>
    unfold readInteger
    split
    · exact absurd rfl hne
    · exact absurd rfl (hplus _)
    · exact absurd rfl (hminus _)
    · rfl

theorem readMagnitude_eq_error_iff :
    readMagnitude (sign.limit lowest highest) sign.beyond ds = .error fault ↔
      ds = [] ∧ fault = .invalidDigit ∨ FirstProblem lowest highest sign ds fault := by
  rw [firstProblem_iff]
  cases ds with
  | nil => simp [readMagnitude, readDigits, eq_comm]
  | cons c ds => simp [readMagnitude]

theorem refused_iff (h : Signed cs sign ds) (hne : cs ≠ []) :
    Refused lowest highest cs fault ↔
      ds = [] ∧ fault = .invalidDigit ∨ FirstProblem lowest highest sign ds fault := by
  constructor
  · intro hrefused
    cases hrefused with
    | empty => exact absurd rfl hne
    | loneSign hc =>
      rcases hc with rfl | rfl
      · exact .inl ⟨(h.unique (.plus [])).2, rfl⟩
      · exact .inl ⟨(h.unique (.minus [])).2, rfl⟩
    | problem hsign hfirst =>
      obtain ⟨rfl, rfl⟩ := h.unique hsign
      exact .inr hfirst
  · rintro (⟨rfl, rfl⟩ | hfirst)
    · cases h with
      | plus => exact .loneSign (.inl rfl)
      | minus => exact .loneSign (.inr rfl)
      | unsigned => exact absurd rfl hne
    · exact .problem h hfirst

/-- Only the empty text is refused as empty. -/
theorem refused_empty_iff : Refused lowest highest cs .empty ↔ cs = [] := by
  constructor
  · intro h
    cases h with
    | empty => rfl
    | problem _ hfirst =>
      obtain ⟨_, _, _, -, hproblem, -⟩ := hfirst
      cases hproblem
  · rintro rfl
    exact .empty

/-! ## Numbers -/

/-- **A text is refused as an integer because of the first problem in it.** -/
theorem readInteger_eq_error_iff :
    readInteger lowest highest cs = .error fault ↔ Refused lowest highest cs fault := by
  by_cases hne : cs = []
  · subst hne
    constructor
    · intro h
      cases h
      exact .empty
    · intro h
      cases h with
      | empty => rfl
      | problem hsign hfirst =>
        cases hsign
        obtain ⟨before, c, after, hnil, -⟩ := hfirst
        simp at hnil
  · obtain ⟨sign, ds, hsign⟩ := exists_signed cs
    rw [readInteger_of_signed hsign hne, map_eq_error_iff, readMagnitude_eq_error_iff,
      refused_iff hsign hne]

/-- Why a text is no number of 64 bits. -/
def Refused64 (cs : List Char) (fault : IntegerFault) : Prop :=
  Refused 9223372036854775808 9223372036854775807 cs fault

/-- **A text is refused as a number of 64 bits because of the first problem in it.** -/
theorem readInt64_eq_error_iff : readInt64 cs = .error fault ↔ Refused64 cs fault := by
  rw [readInt64, map_eq_error_iff, readInteger_eq_error_iff, Refused64]

end Handoff.Text
