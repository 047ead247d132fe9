import Handoff.Json.Numeral
import Handoff.Proofs.Text.Decimal
/-!
# Numerals in text

* `read?_text`: **a numeral is read from its text**, be it a whole number or not, in range or not.
* `mem_text`: the characters that a numeral may hold.
* `toInt?_ofInt`: a whole number of 64 bits is what its numeral denotes.
* `inRange_ofInt`: and it is in range.
-/

namespace Handoff.Json.Numeral

open Text

/-! ## Runs of digits -/

theorem digits_cons_of_isDigit {c : Char} (h : c.isDigit = true) (cs : List Char) :
    digits (c :: cs) = (Fin.ofNat 10 (c.toNat - 48) :: (digits cs).1, (digits cs).2) := by
  have hc : digit? c = some (Fin.ofNat 10 (c.toNat - 48)) := by
    unfold digit?
    rw [if_pos h]
  rw [digits, hc]

theorem digits_of_noDigitFirst {cs : List Char} (h : NoDigitFirst cs) : digits cs = ([], cs) := by
  cases cs with
  | nil => rfl
  | cons c cs =>
    have hc : digit? c = none := by
      unfold digit?
      rw [if_neg (by simp [h c rfl])]
    rw [digits, hc]

/-- A run of digits is read up to where it ends. -/
theorem digits_append {cs rest : List Char} (hd : ∀ c ∈ cs, c.isDigit = true)
    (hr : NoDigitFirst rest) : digits (cs ++ rest) = ((digits cs).1, rest) := by
  induction cs with
  | nil => exact digits_of_noDigitFirst hr
  | cons c cs ih =>
    have hc : c.isDigit = true := hd c (by simp)
    have hcs : ∀ d ∈ cs, d.isDigit = true := fun d hm => hd d (by simp [hm])
    rw [List.cons_append, digits_cons_of_isDigit hc, digits_cons_of_isDigit hc, ih hcs]

theorem foldl_digits {cs : List Char} (hd : ∀ c ∈ cs, c.isDigit = true) (acc : Nat) :
    (digits cs).1.foldl (fun acc d => acc * 10 + d.val) acc = Nat.ofDigitChars 10 cs acc := by
  induction cs generalizing acc with
  | nil => rfl
  | cons c cs ih =>
    have hc : c.isDigit = true := hd c (by simp)
    have hcs : ∀ d ∈ cs, d.isDigit = true := fun d hm => hd d (by simp [hm])
    have hu : c.toNat ≤ 57 := (isDigit_iff.1 hc).2
    have hval : acc * 10 + (Fin.ofNat 10 (c.toNat - 48)).val = 10 * acc + (c.toNat - '0'.toNat) := by
      show acc * 10 + (c.toNat - 48) % 10 = 10 * acc + (c.toNat - 48)
      omega
    rw [digits_cons_of_isDigit hc, List.foldl_cons, hval, ih hcs, Nat.ofDigitChars_cons]

/-- The digits of a number have it as their value. -/
theorem natOf_toDigits (n : Nat) : natOf (digits (Nat.toDigits 10 n)).1 = n := by
  unfold natOf
  rw [foldl_digits fun c hc => isDigit_toDigits hc, Nat.ofDigitChars_ten_toDigits]

theorem digits_toDigits_append (n : Nat) {rest : List Char} (hr : NoDigitFirst rest) :
    digits (Nat.toDigits 10 n ++ rest) = ((digits (Nat.toDigits 10 n)).1, rest) :=
  digits_append (fun _ hc => isDigit_toDigits hc) hr

theorem isDigit_digitChar (d : Fin 10) : (digitChar d).isDigit = true := by
  revert d
  decide

/-- Digits are read from their characters. -/
theorem digits_map_digitChar (ds : List (Fin 10)) {rest : List Char} (hr : NoDigitFirst rest) :
    digits (ds.map digitChar ++ rest) = (ds, rest) := by
  have hback : ∀ d : Fin 10, Fin.ofNat 10 ((digitChar d).toNat - 48) = d := by decide
  induction ds with
  | nil => exact digits_of_noDigitFirst hr
  | cons d ds ih =>
    rw [List.map_cons, List.cons_append, digits_cons_of_isDigit (isDigit_digitChar d), ih, hback]

/-! ## Reading back -/

/-- The text of a fraction. -/
def fractionText : List (Fin 10) → List Char
  | [] => []
  | ds => '.' :: ds.map digitChar

/-- The text of an exponent. -/
def exponentText : Option Int → List Char
  | none => []
  | some e => 'e' :: (showInt e).toList

theorem text_eq (n : Numeral) :
    n.text = (if n.negative then ['-'] else []) ++
      (Nat.toDigits 10 n.whole ++ (fractionText n.fraction ++ exponentText n.exponent)) := by
  rcases n with ⟨negative, whole, _ | ⟨d, ds⟩, _ | e⟩ <;>
    simp [text, fractionText, exponentText, List.append_assoc]

theorem noDigitFirst_exponentText (e : Option Int) : NoDigitFirst (exponentText e) := by
  cases e with
  | none => exact noDigitFirst_nil
  | some e => exact noDigitFirst_cons (by decide)

theorem noDigitFirst_fractionText (ds : List (Fin 10)) (e : Option Int) :
    NoDigitFirst (fractionText ds ++ exponentText e) := by
  cases ds with
  | nil => exact noDigitFirst_exponentText e
  | cons d ds => exact noDigitFirst_cons (by decide)

/-- The digits of a number, as the reader of numerals sees them. -/
theorem digits_toDigits (n : Nat) :
    ∃ d ds, (digits (Nat.toDigits 10 n)).1 = d :: ds ∧ (d = 0 → ds = []) := by
  obtain ⟨c, cs, hcs, hc⟩ := toDigits_eq_cons n
  rw [hcs, digits_cons_of_isDigit hc]
  refine ⟨_, _, rfl, ?_⟩
  intro hzero
  -- the digit is 0, so that its character is the one that stands in front of no other
  have hl : 48 ≤ c.toNat := (isDigit_iff.1 hc).1
  have hu : c.toNat ≤ 57 := (isDigit_iff.1 hc).2
  have hval : (c.toNat - 48) % 10 = 0 := congrArg Fin.val hzero
  have hchar : c = '0' := by
    apply Char.toNat_inj.1
    show c.toNat = 48
    omega
  rw [hchar] at hcs
  rw [eq_nil_of_toDigits_eq_zero_cons hcs]
  rfl

theorem readExponent_toDigits (n : Nat) : readExponent (Nat.toDigits 10 n) = some (n : Int) := by
  obtain ⟨c, cs, hcs, hc⟩ := toDigits_eq_cons n
  obtain ⟨d, ds, hds, -⟩ := digits_toDigits n
  have hread : digits (Nat.toDigits 10 n) = (d :: ds, []) := by
    rw [← hds, ← digits_toDigits_append n noDigitFirst_nil, List.append_nil]
  have hval : natOf (d :: ds) = n := by rw [← hds, natOf_toDigits]
  rw [hcs] at hread ⊢
  unfold readExponent
  split
  · rename_i heq
    cases heq
    cases hc
  · rename_i heq
    cases heq
    cases hc
  · simp only [hread, hval]
    rfl

theorem readExponent_hyphen (n : Nat) :
    readExponent ('-' :: Nat.toDigits 10 n) = some (-(n : Int)) := by
  obtain ⟨d, ds, hds, -⟩ := digits_toDigits n
  have hread : digits (Nat.toDigits 10 n) = (d :: ds, []) := by
    rw [← hds, ← digits_toDigits_append n noDigitFirst_nil, List.append_nil]
  have hval : natOf (d :: ds) = n := by rw [← hds, natOf_toDigits]
  simp only [readExponent, hread, hval]
  rfl

theorem readExponent_showInt (e : Int) : readExponent (showInt e).toList = some e := by
  cases e with
  | ofNat n => rw [Int.ofNat_eq_natCast, showInt_ofNat, readExponent_toDigits]
  | negSucc n => rw [showInt_negSucc, readExponent_hyphen]; rfl

theorem readTail_exponentText (negative : Bool) (whole : Nat) (fraction : List (Fin 10))
    (e : Option Int) :
    readTail negative whole fraction (exponentText e) = some ⟨negative, whole, fraction, e⟩ := by
  cases e with
  | none => rfl
  | some e => simp [exponentText, readTail, readExponent_showInt]

theorem readUnsigned_text (n : Numeral) :
    readUnsigned n.negative
      (Nat.toDigits 10 n.whole ++ (fractionText n.fraction ++ exponentText n.exponent)) = some n := by
  rcases n with ⟨negative, whole, fraction, exponent⟩
  obtain ⟨d, ds, hds, hzero⟩ := digits_toDigits whole
  have hwhole : natOf (d :: ds) = whole := by rw [← hds, natOf_toDigits]
  have hread := digits_toDigits_append whole (noDigitFirst_fractionText fraction exponent)
  have hfirst : ¬ (d = 0 ∧ ds ≠ []) := fun h => h.2 (hzero h.1)
  simp only [readUnsigned, hread, hds]
  rw [if_neg hfirst, hwhole]
  cases fraction with
  | nil =>
    have htail := readTail_exponentText negative whole [] exponent
    cases exponent with
    | none => exact htail
    | some e => exact htail
  | cons f fs =>
    have hfraction := digits_map_digitChar (f :: fs) (noDigitFirst_exponentText exponent)
    have htail := readTail_exponentText negative whole (f :: fs) exponent
    simp only [fractionText, List.cons_append, hfraction, htail]

/-- **A numeral is read from its text.** -/
theorem read?_text (n : Numeral) : read? n.text = some n := by
  have hread := readUnsigned_text n
  rw [text_eq]
  cases hn : n.negative with
  | true =>
    rw [hn] at hread
    exact hread
  | false =>
    rw [hn] at hread
    -- the first character is a digit, so that no sign is looked past
    obtain ⟨c, cs, hcs, hc⟩ := toDigits_eq_cons n.whole
    rw [hcs] at hread ⊢
    show read? (c :: (cs ++ _)) = _
    unfold read?
    split
    · rename_i heq
      cases heq
      cases hc
    · exact hread

/-- The characters that a numeral may hold. -/
theorem mem_text {n : Numeral} {c : Char} (h : c ∈ n.text) :
    c.isDigit = true ∨ c = '-' ∨ c = '.' ∨ c = 'e' := by
  rw [text_eq, List.mem_append, List.mem_append, List.mem_append] at h
  rcases h with h | h | h | h
  · cases hn : n.negative <;> simp [hn] at h
    simp [h]
  · exact .inl (isDigit_toDigits h)
  · cases hf : n.fraction with
    | nil => simp [hf, fractionText] at h
    | cons d ds =>
      rw [hf, fractionText, List.mem_cons] at h
      · rcases h with rfl | h
        · simp
        · obtain ⟨d, -, rfl⟩ := List.mem_map.1 h
          exact .inl (isDigit_digitChar d)
      · simp
  · cases he : n.exponent with
    | none => simp [he, exponentText] at h
    | some e =>
      rw [he, exponentText, List.mem_cons] at h
      rcases h with rfl | h
      · simp
      · rcases mem_showInt h with h | rfl
        · exact .inl h
        · simp

theorem text_ne_nil (n : Numeral) : n.text ≠ [] := by
  rw [text_eq]
  have hne := Nat.toDigits_ne_nil (n := n.whole) (b := 10)
  simp [hne]

/-! ## Whole numbers -/

/-- A whole number of 64 bits is what its numeral denotes. -/
theorem toInt?_ofInt {i : Int} (hl : -9223372036854775808 ≤ i) (hh : i < 18446744073709551616) :
    (ofInt i).toInt? = some i := by
  unfold toInt? ofInt signedLimit unsignedLimit
  by_cases hneg : i < 0
  · have habs : 0 < i.natAbs ∧ i.natAbs ≤ 9223372036854775808 := by omega
    simp only [hneg, decide_true, if_true, habs, and_self]
    congr 1
    omega
  · have habs : i.natAbs < 18446744073709551616 := by omega
    simp only [hneg, decide_false, habs, if_true]
    simp
    omega

/-- Digits whose value fits 64 bits are all gathered. -/
theorem gather_eq {ds : List (Fin 10)} {acc : Nat}
    (h : ds.foldl (fun acc d => acc * 10 + d.val) acc < unsignedLimit) :
    gather acc ds = (ds.foldl (fun acc d => acc * 10 + d.val) acc, 0) := by
  have hle : ∀ (ds : List (Fin 10)) (acc : Nat),
      acc ≤ ds.foldl (fun acc d => acc * 10 + d.val) acc := by
    intro ds
    induction ds with
    | nil => exact fun acc => Nat.le_refl acc
    | cons d ds ih =>
      intro acc
      have hrest := ih (acc * 10 + d.val)
      rw [List.foldl_cons]
      omega
  induction ds generalizing acc with
  | nil => rfl
  | cons d ds ih =>
    rw [List.foldl_cons] at h ⊢
    have hfirst := hle ds (acc * 10 + d.val)
    unfold gather
    rw [if_pos (by omega)]
    exact ih h

/-- Rounding to 53 bits doubles a number at most. -/
theorem round53_le (n : Nat) : round53 n ≤ 2 * n := by
  unfold round53
  split
  · omega
  · rename_i hbig
    have hn : n ≠ 0 := by
      rintro rfl
      exact hbig (by decide)
    have hunit : Nat.pow 2 (n.log2 - 52) ≤ n := by
      calc Nat.pow 2 (n.log2 - 52) ≤ 2 ^ n.log2 := Nat.pow_le_pow_right (by decide) (by omega)
        _ ≤ n := Nat.log2_self_le hn
    have hfloor : n / Nat.pow 2 (n.log2 - 52) * Nat.pow 2 (n.log2 - 52) ≤ n :=
      Nat.div_mul_le_self n _
    simp only
    split
    · omega
    · rw [Nat.add_mul]
      omega

/-- A whole number of 64 bits is in range. -/
theorem inRange_ofInt {i : Int} (h : i.natAbs < unsignedLimit) : (ofInt i).inRange = true := by
  have hvalue : (digits (Nat.toDigits 10 i.natAbs)).1.foldl (fun acc d => acc * 10 + d.val) 0 =
      i.natAbs := natOf_toDigits i.natAbs
  have hwhole : gather 0 (digits (Nat.toDigits 10 i.natAbs)).1 = (i.natAbs, 0) := by
    rw [gather_eq (by omega), hvalue]
  have hround : round53 i.natAbs < 2 ^ 65 := by
    have hle := round53_le i.natAbs
    unfold unsignedLimit at h
    omega
  have hone : round53 (Nat.pow 10 0) = 1 := by decide
  have hlimit : 2 ^ 65 ≤ Nat.pow 2 1024 - Nat.pow 2 970 := by decide +kernel
  have hbound := Nat.lt_of_lt_of_le hround hlimit
  simp only [inRange, ofInt, hwhole, gather]
  rw [Bool.or_eq_true, Bool.and_eq_true]
  refine .inr ⟨rfl, ?_⟩
  show decide (round53 i.natAbs * round53 (Nat.pow 10 0) < _) = true
  rw [hone, Nat.mul_one]
  exact decide_eq_true hbound

end Handoff.Json.Numeral
