import Handoff.Proofs.Text.Decimal
import Handoff.Proofs.Text.Split
import Handoff.Reference
/-!
# References in text

A reference is read from its text but for what the text does not show of its submit time: the parts
of a millisecond, and whether the second was a leap second.

* `read?_text`: what the text of a reference is read as.
* `text_keeps_wholeMillis`: **a reference is read from its text exactly if it was submitted at a
  whole millisecond outside all leap seconds.**
-/

namespace Handoff

open Text

/-! ## Submit times -/

namespace Instant

/-- The time of an instant in milliseconds fits 64 bits. -/
theorem millis_bounds (t : Instant) :
    -9223372036854775808 ≤ t.millis ∧ t.millis ≤ 9223372036854775807 := by
  have hd := t.first_le_day
  have hd' := t.day_lt
  have hs := t.second_lt
  have hn := t.nano_lt
  simp only [Calendar.firstDayOfYear] at hd hd'
  unfold millis
  omega

/-- Outside leap seconds the time in milliseconds is that of an instant. -/
theorem isSome_ofMillis?_millis {t : Instant} (h : t.nano < 1000000000) :
    (ofMillis? t.millis).isSome = true := by
  have hd := t.first_le_day
  have hd' := t.day_lt
  have hs := t.second_lt
  have hday : t.millis / 86400000 = t.day := by unfold millis; omega
  have hsecond : (t.millis % 86400000 / 1000).toNat = t.second := by unfold millis; omega
  have hnano : (t.millis % 1000 * 1000000).toNat < 1000000000 := by unfold millis; omega
  unfold ofMillis? ofParts?
  rw [dif_pos ⟨by omega, by omega, .inl hnano⟩]
  rfl

/-- A time is read from its text in milliseconds, as far as the text shows it. -/
theorem readMillis_millis (t : Instant) :
    Reference.readMillis (showInt t.millis).toList = ofMillis? t.millis := by
  obtain ⟨hl, hh⟩ := t.millis_bounds
  unfold Reference.readMillis
  rw [readInt64_showInt hl hh]
  show ofMillis? (Int64.ofInt t.millis).toInt = _
  rw [Int64.toInt_ofInt_of_le (by omega) (by omega)]

end Instant

/-! ## References -/

namespace Reference

theorem readPriority_code (p : Priority) : readPriority (showInt p.code).toList = some p := by
  have hcode : p.code ≤ 255 := by cases p <;> decide
  unfold readPriority
  rw [showInt_ofNat, readNatural_toDigits hcode]
  exact p.ofCode?_code

/-- Only the worker group may hold the separator. -/
theorem notMem_parts (r : Reference) : ∀ part ∈ r.parts, '_' ∉ part := by
  intro part h
  simp only [parts, List.mem_cons, List.not_mem_nil, or_false] at h
  rcases h with rfl | rfl | rfl | rfl | rfl <;> exact notMem_showInt (by decide) (by decide)

theorem splitFirst_text (r : Reference) :
    splitFirst '_' 5 r.text.toList = r.parts ++ [r.workerGroup.toList] := by
  unfold text
  rw [String.toList_ofList]
  exact splitFirst_join r.notMem_parts r.workerGroup.toList

/-- **What the text of a reference is read as**: the reference, submitted at the instant that its
time in milliseconds gives. -/
theorem read?_text (r : Reference) :
    read? r.text = (Instant.ofMillis? r.submitTime.millis).map fun t => { r with submitTime := t } := by
  unfold read?
  rw [splitFirst_text]
  show ofParts? [_, _, _, _, _, _] = _
  simp only [ofParts?, readPriority_code, Id.ofText_digits, Instant.readMillis_millis,
    String.ofList_toList, Except.toOption]
  cases Instant.ofMillis? r.submitTime.millis <;> rfl

/-- A reference is read from its text exactly if its submit time is. -/
theorem read?_text_eq_some_iff (r : Reference) :
    read? r.text = some r ↔ Instant.ofMillis? r.submitTime.millis = some r.submitTime := by
  rw [read?_text, Option.map_eq_some_iff]
  constructor
  · rintro ⟨t, ht, hr⟩
    have htime : t = r.submitTime := congrArg submitTime hr
    rw [ht, htime]
  · intro h
    exact ⟨r.submitTime, h, rfl⟩

/-- **A reference is read from its text exactly if it was submitted at a whole millisecond outside all
leap seconds.** Outside leap seconds some reference is always read, and whatever is read has all
that the text shows: only the instant may differ, within its millisecond. -/
theorem text_keeps_wholeMillis (r : Reference) :
    (read? r.text = some r ↔
      r.submitTime.nano % 1000000 = 0 ∧ r.submitTime.nano < 1000000000) ∧
    (r.submitTime.nano < 1000000000 → (read? r.text).isSome = true) ∧
    read? r.text =
      (Instant.ofMillis? r.submitTime.millis).map fun t => { r with submitTime := t } := by
  refine ⟨?_, ?_, read?_text r⟩
  · rw [read?_text_eq_some_iff, Instant.ofMillis?_millis]
  · intro h
    rw [read?_text, Option.isSome_map]
    exact Instant.isSome_ofMillis?_millis h

/-- A reference that differs from others of its kind in its submit time alone. -/
def ofSubmitTime (t : Instant) : Reference :=
  ⟨.medium, ⟨10⟩, .low, ⟨7⟩, t, "default"⟩

/-- The millisecond 123 of the second 1700000000. -/
theorem text_keeps_wholeMillis_at_123 :
    (123000000 : Nat) < 1000000000 ∧
      (read? (ofSubmitTime ⟨19675, 80000, 123000000, by decide, by decide, by decide,
        by decide⟩).text).isSome = true :=
  ⟨by decide, (text_keeps_wholeMillis _).2.1 (by decide)⟩

/-- Nanoseconds do not come back, nor does a leap second. -/
theorem text_loses_submitTime :
    read? (ofSubmitTime ⟨19675, 80000, 123456789, by decide, by decide, by decide, by decide⟩).text ≠
      some (ofSubmitTime ⟨19675, 80000, 123456789, by decide, by decide, by decide, by decide⟩) ∧
    read? (ofSubmitTime ⟨19722, 86399, 1500000000, by decide, by decide, by decide, by decide⟩).text ≠
      some (ofSubmitTime ⟨19722, 86399, 1500000000, by decide, by decide, by decide, by decide⟩) := by
  constructor
  · rw [Ne, read?_text_eq_some_iff, Instant.ofMillis?_millis]
    decide
  · rw [Ne, read?_text_eq_some_iff, Instant.ofMillis?_millis]
    decide

end Reference

end Handoff
