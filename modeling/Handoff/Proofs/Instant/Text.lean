import Handoff.Instant.Text
import Handoff.Proofs.Text.Decimal
/-!
# Instants in text

* `readNumber_padded`, `readYear_yearChars`, `readFraction_fractionChars`: each part of the text is
  read as what was written.
* `read?_text`: **every instant is read from its text**: to the nanosecond, in leap seconds, and in
  years of any sign and length.
-/

namespace Handoff.Instant

open Text Calendar

/-! ## Digits with zeros in front -/

theorem digitsValue_eq (ds : List Char) : digitsValue ds = Nat.ofDigitChars 10 ds 0 := by
  have hstep : ∀ (acc : Nat) (c : Char), acc * 10 + (c.toNat - 48) = 10 * acc + (c.toNat - 48) :=
    fun acc c => by rw [Nat.mul_comm]
  rw [digitsValue, Nat.ofDigitChars_eq_foldl]
  simp only [hstep]
  rfl

theorem digitsValue_padded (width n : Nat) : digitsValue (padded width n) = n := by
  rw [digitsValue_eq, padded, Nat.ofDigitChars_append, Nat.ofDigitChars_replicate_zero,
    Nat.mul_zero, Nat.ofDigitChars_ten_toDigits]

theorem isDigit_padded {width n : Nat} {c : Char} (h : c ∈ padded width n) : c.isDigit = true := by
  rw [padded, List.mem_append, List.mem_replicate] at h
  rcases h with ⟨-, rfl⟩ | h
  · rfl
  · exact isDigit_toDigits h

theorem padded_ne_nil (width n : Nat) : padded width n ≠ [] := by
  intro h
  exact Nat.toDigits_ne_nil (List.append_eq_nil_iff.1 h).2

/-- Zeros in front fill up the width. -/
theorem length_padded {width n : Nat} (hw : 0 < width) (hn : n < Nat.pow 10 width) :
    (padded width n).length = width := by
  have hlen : (Nat.toDigits 10 n).length ≤ width := (Nat.length_toDigits_le_iff (by decide) hw).2 hn
  rw [padded, List.length_append, List.length_replicate]
  omega

/-! ## Reading the parts -/

/-- A text that does not begin with a blank has nothing to trim there. -/
theorem trimStart_cons {c : Char} (h : isBlank c = false) (cs : List Char) :
    trimStart (c :: cs) = c :: cs :=
  List.dropWhile_cons_of_neg (by simp [h])

/-- A run of digits is taken up to where it ends. -/
theorem takeWhile_take_append {most : Nat} {ds rest : List Char} (hd : ∀ c ∈ ds, c.isDigit = true)
    (hlen : ds.length ≤ most) (hr : NoDigitFirst rest) :
    ((ds ++ rest).take most).takeWhile Char.isDigit = ds := by
  have hrest : (rest.take (most - ds.length)).takeWhile Char.isDigit = [] := by
    cases rest with
    | nil => simp
    | cons c rest =>
      have hc : c.isDigit = false := hr c rfl
      cases most - ds.length with
      | zero => rfl
      | succ k => simp [hc]
  rw [List.take_append, List.take_of_length_le hlen, List.takeWhile_append_of_pos hd, hrest,
    List.append_nil]

theorem readNumber_append {most : Nat} {ds rest : List Char} (hd : ∀ c ∈ ds, c.isDigit = true)
    (hne : ds ≠ []) (hlen : ds.length ≤ most) (hr : NoDigitFirst rest) :
    readNumber most (ds ++ rest) = some (digitsValue ds, rest) := by
  simp only [readNumber, takeWhile_take_append hd hlen hr]
  rw [if_neg hne, List.drop_left]

theorem readNumber_padded {most width n : Nat} {rest : List Char}
    (hlen : (padded width n).length ≤ most) (hr : NoDigitFirst rest) :
    readNumber most (padded width n ++ rest) = some (n, rest) := by
  rw [readNumber_append (fun _ hc => isDigit_padded hc) (padded_ne_nil width n) hlen hr,
    digitsValue_padded]

/-- What begins with digits is not blank there. -/
theorem trimStart_padded (width n : Nat) (rest : List Char) :
    trimStart (padded width n ++ rest) = padded width n ++ rest := by
  cases h : padded width n with
  | nil => exact absurd h (padded_ne_nil width n)
  | cons c cs =>
    have hc : c.isDigit = true := isDigit_padded (h ▸ List.mem_cons_self)
    exact trimStart_cons (isBlank_of_isDigit hc) _

theorem readPart_padded {n : Nat} {rest : List Char} (hn : n < 100) (hr : NoDigitFirst rest) :
    readPart (padded 2 n ++ rest) = some (n, rest) := by
  have hlen : (padded 2 n).length ≤ 2 := Nat.le_of_eq (length_padded (by decide) (by simpa using hn))
  rw [readPart, trimStart_padded, readNumber_padded hlen hr]

/-- A year without a sign is read from four digits at most. -/
theorem readYear_padded {n : Nat} {rest : List Char} (hn : n < 10000) (hr : NoDigitFirst rest) :
    readYear (padded 4 n ++ rest) = some ((n : Int), rest) := by
  have hlen : (padded 4 n).length ≤ 4 := Nat.le_of_eq (length_padded (by decide) (by simpa using hn))
  have hread := readNumber_padded hlen hr
  have htrim := trimStart_padded 4 n rest
  unfold readYear
  rw [htrim]
  cases hcs : padded 4 n with
  | nil => exact absurd hcs (padded_ne_nil 4 n)
  | cons c cs =>
    have hc : c.isDigit = true := isDigit_padded (hcs ▸ List.mem_cons_self)
    rw [hcs] at hread
    split
    · rename_i heq
      cases heq
      cases hc
    · rename_i heq
      cases heq
      cases hc
    · rw [hread]
      rfl

theorem readYear_yearChars (year : Int) {rest : List Char} (hr : NoDigitFirst rest) :
    readYear (yearChars year ++ rest) = some (year, rest) := by
  have hread : readNumber (padded 4 year.natAbs ++ rest).length (padded 4 year.natAbs ++ rest) =
      some (year.natAbs, rest) := by
    refine readNumber_padded ?_ hr
    rw [List.length_append]
    omega
  have hminus : trimStart ('-' :: (padded 4 year.natAbs ++ rest)) =
      '-' :: (padded 4 year.natAbs ++ rest) := trimStart_cons rfl _
  have hplus : trimStart ('+' :: (padded 4 year.natAbs ++ rest)) =
      '+' :: (padded 4 year.natAbs ++ rest) := trimStart_cons rfl _
  unfold yearChars
  split
  · rename_i hneg
    rw [List.cons_append, readYear, hminus]
    simp only [hread, Option.map_some]
    congr 2
    omega
  rename_i hpos
  split
  · rw [readYear_padded (by omega) hr]
    congr 2
    omega
  · rw [List.cons_append, readYear, hplus]
    simp only [hread, Option.map_some]
    congr 2
    omega

/-- A point and digits that end the seconds are read as the fraction that they spell. -/
theorem readFraction_point {width n : Nat} (hw : 0 < width) (hwidth : width ≤ 9)
    (hn : n < Nat.pow 10 width) :
    readFraction ('.' :: padded width n ++ ['Z']) = some (n * Nat.pow 10 (9 - width), ['Z']) := by
  have hlen : (padded width n).length = width := length_padded hw hn
  have hd : ∀ c ∈ padded width n, c.isDigit = true := fun c hc => isDigit_padded hc
  have hz : NoDigitFirst ['Z'] := noDigitFirst_cons rfl
  have hmost : (padded width n).length ≤ 9 := by omega
  have htake := takeWhile_take_append hd hmost hz
  simp only [List.cons_append, readFraction, htake]
  rw [if_neg (padded_ne_nil width n), List.drop_left, digitsValue_padded, hlen]
  rfl

theorem readFraction_fractionChars {nano : Nat} (h : nano < 1000000000) :
    readFraction (fractionChars nano ++ ['Z']) = some (nano, ['Z']) := by
  unfold fractionChars
  split
  · rename_i hzero
    rw [hzero]
    rfl
  split
  · rename_i hzero hmilli
    have hlt : nano / 1000000 < 1000 := by omega
    have hread : readFraction ('.' :: padded 3 (nano / 1000000) ++ ['Z']) =
        some (nano / 1000000 * 1000000, ['Z']) := readFraction_point (by decide) (by decide) hlt
    rw [hread]
    congr 2
    omega
  split
  · rename_i hzero hmilli hmicro
    have hlt : nano / 1000 < 1000000 := by omega
    have hread : readFraction ('.' :: padded 6 (nano / 1000) ++ ['Z']) =
        some (nano / 1000 * 1000, ['Z']) := readFraction_point (by decide) (by decide) hlt
    rw [hread]
    congr 2
    omega
  · have hread : readFraction ('.' :: padded 9 nano ++ ['Z']) = some (nano * 1, ['Z']) :=
      readFraction_point (by decide) (by decide) h
    rw [hread, Nat.mul_one]

/-! ## Reading the whole -/

/-- A mark and a part of two digits are read one after the other. -/
theorem readMark_readPart {mark : Char} {n : Nat} {rest : List Char} (hm : isBlank mark = false)
    (hn : n < 100) (hr : NoDigitFirst rest) :
    (readMark mark (trimStart (mark :: (padded 2 n ++ rest)))).bind readPart = some (n, rest) := by
  have hmark : readMark mark (mark :: (padded 2 n ++ rest)) = some (padded 2 n ++ rest) := if_pos rfl
  rw [trimStart_cons hm, hmark, Option.bind_some, readPart_padded hn hr]

/-- A month has a number of one or two digits, and so has each of its days. -/
theorem monthLength?_le {year : Int} {month length : Nat}
    (h : monthLength? year month = some length) : month ≤ 12 ∧ length ≤ 31 := by
  unfold monthLength? at h
  split at h
  · cases h
  · obtain ⟨hlt, hget⟩ := List.getElem?_eq_some_iff.1 h
    have hlength : (monthLengths year).length = 12 := rfl
    have hall : ∀ n ∈ monthLengths year, n ≤ 31 := by
      unfold monthLengths
      split <;> decide
    have hmem : length ∈ monthLengths year := hget ▸ List.getElem_mem hlt
    exact ⟨by omega, hall length hmem⟩

/-- The parts that the text of an instant spells. -/
def spelled (t : Instant) : Spelled where
  date := dateOfDay t.day
  hour := t.second / 3600
  minute := t.second / 60 % 60
  second := t.second % 60 + t.nano / 1000000000
  nano := t.nano % 1000000000
  offset := 0

theorem readSpelled_textChars (t : Instant) : readSpelled t.textChars = some t.spelled := by
  obtain ⟨length, hlength, hday, hle⟩ := dateOfDay_valid t.day
  obtain ⟨hmonth, hmost⟩ := monthLength?_le hlength
  have hs := t.second_lt
  have hn := t.nano_lt
  have htext : t.textChars = yearChars (dateOfDay t.day).year ++ '-' ::
      (padded 2 (dateOfDay t.day).month ++ '-' :: (padded 2 (dateOfDay t.day).day ++ 'T' ::
      (padded 2 (t.second / 3600) ++ ':' :: (padded 2 (t.second / 60 % 60) ++ ':' ::
      (padded 2 (t.second % 60 + t.nano / 1000000000) ++
        (fractionChars (t.nano % 1000000000) ++ ['Z'])))))) := by
    simp [textChars]
  have hfraction : NoDigitFirst (fractionChars (t.nano % 1000000000) ++ ['Z']) := by
    unfold fractionChars
    split
    · exact noDigitFirst_cons rfl
    split
    · exact noDigitFirst_cons rfl
    split <;> exact noDigitFirst_cons rfl
  have hhyphen : ∀ cs, NoDigitFirst ('-' :: cs) := fun cs => noDigitFirst_cons rfl
  have hcolon : ∀ cs, NoDigitFirst (':' :: cs) := fun cs => noDigitFirst_cons rfl
  have hletter : ∀ cs, NoDigitFirst ('T' :: cs) := fun cs => noDigitFirst_cons rfl
  unfold readSpelled
  -- the date up to its day, then the letter, then the time of the day
  rw [htext, readYear_yearChars _ (hhyphen _)]
  simp only [Option.bind_eq_bind, Option.bind_some]
  rw [readMark_readPart rfl (by omega) (hhyphen _)]
  simp only [Option.bind_some]
  rw [readMark_readPart rfl (by omega) (hletter _)]
  simp only [Option.bind_some, true_or, if_true]
  rw [readPart_padded (by omega) (hcolon _)]
  simp only [Option.bind_some]
  rw [readMark_readPart rfl (by omega) (hcolon _)]
  simp only [Option.bind_some]
  rw [readMark_readPart rfl (by omega) hfraction]
  simp only [Option.bind_some]
  rw [readFraction_fractionChars (by omega)]
  rfl

/-- The spelled parts of an instant denote it. -/
theorem ofSpelled?_spelled (t : Instant) : ofSpelled? t.spelled = some t := by
  obtain ⟨length, hlength, hday, hle⟩ := dateOfDay_valid t.day
  have hs := t.second_lt
  have hn := t.nano_lt
  -- a leap second is spelled as second 60, and is kept as second 59 with as many nanoseconds more
  have hsecond : t.second / 3600 * 3600 + t.second / 60 % 60 * 60 +
      min (t.second % 60 + t.nano / 1000000000) 59 = t.second := by omega
  have hnano : t.nano % 1000000000 + (t.second % 60 + t.nano / 1000000000 - 59) * 1000000000 =
      t.nano := by omega
  have hwhole : t.day * 86400 + t.second - 0 = t.day * 86400 + t.second := by omega
  have hdays : (t.day * 86400 + t.second) / 86400 = t.day := by omega
  have hseconds : ((t.day * 86400 + t.second) % 86400).toNat = t.second := by omega
  unfold ofSpelled? spelled
  simp only [hlength, Option.bind_eq_bind, Option.bind_some, hsecond, hnano, dayOfDate_dateOfDay,
    ofParts?_eq, hwhole, hdays, hseconds]
  rw [if_neg (by omega), if_neg (by omega), if_neg (by omega)]

/-- **Every instant is read from its text.** -/
theorem read?_text (t : Instant) : read? t.text = some t := by
  unfold read? text
  rw [String.toList_ofList, readSpelled_textChars]
  exact t.ofSpelled?_spelled

end Handoff.Instant
