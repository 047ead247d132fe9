import Handoff.Proofs.Reference.Text
import Handoff.Proofs.Text.Numbers
/-!
# Which texts are references

The reader of references accepts a language of its own: both priorities without blank space, both
numbers with blank space around them, a time without, and then any remainder.

* `Reference.Spells`, `Spelling.InRange`: the grammar, and the ranges of its five numbers.
* `Reference.Denotes`: the reference that a spelling stands for.
* `Instant.ofMillis?_eq_some_iff`, `Instant.isSome_ofMillis?_iff`: the instant of a time in milliseconds,
  and the times that have one.
* `Reference.parse_grammar`: **the texts that denote references are those of the grammar**; each denotes
  what it spells, and the text of that reference is its normal form.
-/

namespace Handoff

open Text

/-! ## Times -/

namespace Instant

/-- **The instant of a time in milliseconds** is the whole millisecond outside leap seconds that has
this time. -/
theorem ofMillis?_eq_some_iff {ms : Int} {t : Instant} :
    ofMillis? ms = some t ↔ t.millis = ms ∧ t.nano % 1000000 = 0 ∧ t.nano < 1000000000 := by
  constructor
  · intro h
    have hmillis : t.millis = ms := by
      unfold ofMillis? ofParts? at h
      split at h
      · cases h
        simp only [millis]
        omega
      · cases h
    rw [← hmillis] at h
    exact ⟨hmillis, (ofMillis?_millis t).1 h⟩
  · rintro ⟨rfl, h⟩
    exact (ofMillis?_millis t).2 h

/-- The first millisecond of the calendar. -/
def firstMilli : Int :=
  Calendar.firstDayOfYear (-262143) * 86400000

/-- The first millisecond after the end of the calendar. -/
def endMilli : Int :=
  Calendar.firstDayOfYear 262143 * 86400000

/-- A time in milliseconds has an instant exactly if it is within the calendar. -/
theorem isSome_ofMillis?_iff {ms : Int} :
    (ofMillis? ms).isSome = true ↔ firstMilli ≤ ms ∧ ms < endMilli := by
  unfold ofMillis? ofParts? firstMilli endMilli
  constructor
  · intro h
    split at h
    · omega
    · cases h
  · intro h
    rw [dif_pos (by omega)]
    rfl

end Instant

/-! ## Priorities -/

namespace Priority

theorem ofCode?_eq_some_iff {n : Nat} {p : Priority} : ofCode? n = some p ↔ p.code = n := by
  constructor
  · intro h
    unfold ofCode? at h
    split at h <;> cases h <;> rfl
  · rintro rfl
    exact p.ofCode?_code

/-- There is a priority for each of the first five codes. -/
theorem exists_code_eq {n : Nat} (h : n ≤ 4) : ∃ p : Priority, p.code = n := by
  have hcode : ∀ n ≤ 4, (ofCode? n).isSome = true := by decide
  obtain ⟨p, hp⟩ := Option.isSome_iff_exists.1 (hcode n h)
  exact ⟨p, ofCode?_eq_some_iff.1 hp⟩

end Priority

/-! ## The grammar -/

namespace Reference

/-- What a text in the form of a reference spells: five numbers and a remainder. -/
structure Spelling where
  processPriority : Nat
  processId : Int
  taskPriority : Nat
  taskId : Int
  millis : Int
  workerGroup : List Char

/-- The text has at least five underscores, and spells a number in front of each of the first five.
Blank space may stand around the numbers of the process and of the task only. -/
def Spells (raw : String) (w : Spelling) : Prop :=
  ∃ processPriority processId taskPriority taskId millis : List Char,
    raw.toList = processPriority ++ '_' :: (processId ++ '_' :: (taskPriority ++ '_' ::
      (taskId ++ '_' :: (millis ++ '_' :: w.workerGroup)))) ∧
    (∀ part ∈ [processPriority, processId, taskPriority, taskId, millis], '_' ∉ part) ∧
    SpellsNat processPriority w.processPriority ∧
    SpellsInt (trim processId) w.processId ∧
    SpellsNat taskPriority w.taskPriority ∧
    SpellsInt (trim taskId) w.taskId ∧
    SpellsInt millis w.millis

/-- The numbers of a spelling are in range: there are five priorities, all other numbers have 64
bits, and the time is within the calendar. -/
structure Spelling.InRange (w : Spelling) : Prop where
  processPriority_le : w.processPriority ≤ 4
  processId_fits : Fits64 w.processId
  taskPriority_le : w.taskPriority ≤ 4
  taskId_fits : Fits64 w.taskId
  millis_fits : Fits64 w.millis
  firstMilli_le : Instant.firstMilli ≤ w.millis
  lt_endMilli : w.millis < Instant.endMilli

/-- The reference that a spelling stands for; its submit time is a whole millisecond outside leap
seconds. -/
structure Denotes (w : Spelling) (r : Reference) : Prop where
  processPriority : r.processPriority.code = w.processPriority
  processId : r.processId.toInt = w.processId
  taskPriority : r.taskPriority.code = w.taskPriority
  taskId : r.taskId.toInt = w.taskId
  millis : r.submitTime.millis = w.millis
  wholeMilli : r.submitTime.nano % 1000000 = 0
  noLeap : r.submitTime.nano < 1000000000
  workerGroup : r.workerGroup = String.ofList w.workerGroup

theorem parse_eq_ok_iff {raw : String} {r : Reference} : parse raw = .ok r ↔ read? raw = some r := by
  unfold parse
  cases read? raw <;> simp

theorem parse_eq_error_iff {raw : String} {fault : Fault} :
    parse raw = .error fault ↔ fault = .invalidReference raw ∧ ¬ ∃ r, parse raw = .ok r := by
  unfold parse
  cases read? raw <;> simp [eq_comm]

/-! ## The parts of a reference -/

theorem toOption_eq_some_iff {α : Type} {x : Except IntegerFault α} {a : α} :
    x.toOption = some a ↔ x = .ok a := by
  cases x <;> simp [Except.toOption]

/-- A priority is read exactly if the text spells its code. -/
theorem readPriority_eq_some_iff {cs : List Char} {p : Priority} :
    readPriority cs = some p ↔ SpellsNat cs p.code := by
  have hcode : p.code ≤ 255 := by cases p <;> decide
  unfold readPriority
  simp only [Option.bind_eq_some_iff, toOption_eq_some_iff, readNatural_eq_ok_iff]
  constructor
  · rintro ⟨n, ⟨hn, -⟩, hp⟩
    rw [Priority.ofCode?_eq_some_iff.1 hp]
    exact hn
  · intro h
    exact ⟨p.code, ⟨h, hcode⟩, p.ofCode?_code⟩

/-- A time is read exactly if the text spells it, and the instant is the one that has this time. -/
theorem readMillis_eq_some_iff {cs : List Char} {t : Instant} :
    readMillis cs = some t ↔
      SpellsInt cs t.millis ∧ t.nano % 1000000 = 0 ∧ t.nano < 1000000000 := by
  have hfits : Fits64 t.millis := t.millis_bounds
  have hback : (Int64.ofInt t.millis).toInt = t.millis := hfits.toInt_ofInt
  unfold readMillis
  simp only [Option.bind_eq_some_iff, toOption_eq_some_iff, readInt64_eq_ok_iff,
    Instant.ofMillis?_eq_some_iff]
  constructor
  · rintro ⟨v, hv, hmillis, hwhole⟩
    rw [hmillis]
    exact ⟨hv, hwhole⟩
  · rintro ⟨hspells, hwhole⟩
    refine ⟨Int64.ofInt t.millis, ?_, hback.symm, hwhole⟩
    rw [hback]
    exact hspells

theorem ofParts?_eq_some_iff {p₁ p₂ p₃ p₄ p₅ group : List Char} {r : Reference} :
    ofParts? [p₁, p₂, p₃, p₄, p₅, group] = some r ↔
      readPriority p₁ = some r.processPriority ∧ Id.ofText p₂ = .ok r.processId ∧
      readPriority p₃ = some r.taskPriority ∧ Id.ofText p₄ = .ok r.taskId ∧
      readMillis p₅ = some r.submitTime ∧ r.workerGroup = String.ofList group := by
  simp only [ofParts?, Option.bind_eq_bind, Option.pure_def, Option.bind_eq_some_iff,
    toOption_eq_some_iff]
  constructor
  · rintro ⟨a, ha, b, hb, c, hc, d, hd, e, he, hr⟩
    obtain rfl := Option.some.inj hr
    exact ⟨ha, hb, hc, hd, he, rfl⟩
  · rintro ⟨ha, hb, hc, hd, he, hgroup⟩
    exact ⟨_, ha, _, hb, _, hc, _, hd, _, he, by rw [← hgroup]⟩

/-! ## The language -/

/-- Only a text of six parts denotes a reference. -/
theorem read?_eq_some_iff_exists_parts {raw : String} {r : Reference} :
    read? raw = some r ↔ ∃ p₁ p₂ p₃ p₄ p₅ group : List Char,
      raw.toList = join '_' ([p₁, p₂, p₃, p₄, p₅] ++ [group]) ∧
      (∀ part ∈ [p₁, p₂, p₃, p₄, p₅], '_' ∉ part) ∧
      ofParts? [p₁, p₂, p₃, p₄, p₅, group] = some r := by
  unfold read?
  constructor
  · intro h
    match hsplit : splitFirst '_' 5 raw.toList with
    | [p₁, p₂, p₃, p₄, p₅, group] =>
      have hparts : splitFirst '_' 5 raw.toList = [p₁, p₂, p₃, p₄, p₅] ++ [group] := hsplit
      have hlength : [p₁, p₂, p₃, p₄, p₅].length = 5 := rfl
      obtain ⟨hjoin, hclean⟩ := (splitFirst_eq_iff hlength).1 hparts
      rw [hsplit] at h
      exact ⟨p₁, p₂, p₃, p₄, p₅, group, hjoin.symm, hclean, h⟩
    | [] | [_] | [_, _] | [_, _, _] | [_, _, _, _] | [_, _, _, _, _]
    | _ :: _ :: _ :: _ :: _ :: _ :: _ :: _ =>
      rw [hsplit] at h
      cases h
  · rintro ⟨p₁, p₂, p₃, p₄, p₅, group, hraw, hclean, h⟩
    have hlength : [p₁, p₂, p₃, p₄, p₅].length = 5 := rfl
    rw [(splitFirst_eq_iff hlength).2 ⟨hraw.symm, hclean⟩]
    exact h

/-- **A text denotes the reference that it spells**, and no other. -/
theorem read?_eq_some_iff {raw : String} {r : Reference} :
    read? raw = some r ↔ ∃ w, Spells raw w ∧ Denotes w r := by
  rw [read?_eq_some_iff_exists_parts]
  simp only [ofParts?_eq_some_iff, readPriority_eq_some_iff, Id.ofText_eq_ok_iff,
    readMillis_eq_some_iff]
  constructor
  · rintro ⟨p₁, p₂, p₃, p₄, p₅, group, hraw, hclean, h₁, h₂, h₃, h₄, ⟨h₅, hwhole, hleap⟩, hgroup⟩
    refine ⟨⟨r.processPriority.code, r.processId.toInt, r.taskPriority.code, r.taskId.toInt,
      r.submitTime.millis, group⟩, ?_, ⟨rfl, rfl, rfl, rfl, rfl, hwhole, hleap, hgroup⟩⟩
    exact ⟨p₁, p₂, p₃, p₄, p₅, hraw, hclean, h₁, h₂, h₃, h₄, h₅⟩
  · rintro ⟨w, ⟨p₁, p₂, p₃, p₄, p₅, hraw, hclean, h₁, h₂, h₃, h₄, h₅⟩, hw⟩
    refine ⟨p₁, p₂, p₃, p₄, p₅, w.workerGroup, hraw, hclean, ?_, ?_, ?_, ?_, ⟨?_, ?_⟩, ?_⟩
    · rwa [hw.processPriority]
    · rwa [hw.processId]
    · rwa [hw.taskPriority]
    · rwa [hw.taskId]
    · rwa [hw.millis]
    · exact ⟨hw.wholeMilli, hw.noLeap⟩
    · exact hw.workerGroup

/-- What a reference is denoted by is in range. -/
theorem Denotes.inRange {w : Spelling} {r : Reference} (h : Denotes w r) : w.InRange := by
  have hcode : ∀ p : Priority, p.code ≤ 4 := by
    intro p
    cases p <;> decide
  have htime : Instant.ofMillis? w.millis = some r.submitTime :=
    Instant.ofMillis?_eq_some_iff.2 ⟨h.millis, h.wholeMilli, h.noLeap⟩
  have hcalendar := Instant.isSome_ofMillis?_iff.1 (Option.isSome_of_eq_some htime)
  exact {
    processPriority_le := h.processPriority ▸ hcode _
    processId_fits := h.processId ▸ fits64_toInt _
    taskPriority_le := h.taskPriority ▸ hcode _
    taskId_fits := h.taskId ▸ fits64_toInt _
    millis_fits := h.millis ▸ r.submitTime.millis_bounds
    firstMilli_le := hcalendar.1
    lt_endMilli := hcalendar.2 }

/-- Whatever is in range denotes a reference. -/
theorem Spelling.InRange.exists_denotes {w : Spelling} (h : w.InRange) : ∃ r, Denotes w r := by
  obtain ⟨p, hp⟩ := Priority.exists_code_eq h.processPriority_le
  obtain ⟨q, hq⟩ := Priority.exists_code_eq h.taskPriority_le
  obtain ⟨t, ht⟩ := Option.isSome_iff_exists.1
    (Instant.isSome_ofMillis?_iff.2 ⟨h.firstMilli_le, h.lt_endMilli⟩)
  obtain ⟨hmillis, hwhole, hleap⟩ := Instant.ofMillis?_eq_some_iff.1 ht
  exact ⟨⟨p, ⟨Int64.ofInt w.processId⟩, q, ⟨Int64.ofInt w.taskId⟩, t, String.ofList w.workerGroup⟩,
    hp, h.processId_fits.toInt_ofInt, hq, h.taskId_fits.toInt_ofInt, hmillis, hwhole, hleap, rfl⟩

/-- A reference that was read from a text is read from its own text. -/
theorem read?_text_of_read? {raw : String} {r : Reference} (h : read? raw = some r) :
    read? r.text = some r := by
  obtain ⟨w, -, hw⟩ := read?_eq_some_iff.1 h
  rw [read?_text_eq_some_iff, Instant.ofMillis?_millis]
  exact ⟨hw.wholeMilli, hw.noLeap⟩

/-- **The texts that denote references are those of the grammar whose numbers are in range.** A text
denotes the reference that it spells; every other text is shown by the one fault there is; and the
text of a reference that was read denotes it again, so that two texts denote the same reference
exactly if the texts of their references are the same. -/
theorem parse_grammar (raw : String) :
    (∀ r, parse raw = .ok r ↔ ∃ w, Spells raw w ∧ Denotes w r) ∧
    ((∃ r, parse raw = .ok r) ↔ ∃ w, Spells raw w ∧ w.InRange) ∧
    (∀ fault, parse raw = .error fault ↔
      fault = .invalidReference raw ∧ ¬ ∃ w, Spells raw w ∧ w.InRange) ∧
    (∀ r, parse raw = .ok r → parse r.text = .ok r) ∧
    (∀ r raw' r', parse raw = .ok r → parse raw' = .ok r' → (r = r' ↔ r.text = r'.text)) := by
  have hdenotes : ∀ r, parse raw = .ok r ↔ ∃ w, Spells raw w ∧ Denotes w r := by
    intro r
    rw [parse_eq_ok_iff, read?_eq_some_iff]
  have haccepts : (∃ r, parse raw = .ok r) ↔ ∃ w, Spells raw w ∧ w.InRange := by
    constructor
    · rintro ⟨r, hr⟩
      obtain ⟨w, hspells, hw⟩ := (hdenotes r).1 hr
      exact ⟨w, hspells, hw.inRange⟩
    · rintro ⟨w, hspells, hw⟩
      obtain ⟨r, hr⟩ := hw.exists_denotes
      exact ⟨r, (hdenotes r).2 ⟨w, hspells, hr⟩⟩
  have hnormal : ∀ {raw r}, parse raw = .ok r → parse r.text = .ok r := fun h =>
    parse_eq_ok_iff.2 (read?_text_of_read? (parse_eq_ok_iff.1 h))
  refine ⟨hdenotes, haccepts, ?_, fun r => hnormal, ?_⟩
  · intro fault
    rw [parse_eq_error_iff, haccepts]
  · intro r raw' r' hr hr'
    constructor
    · exact congrArg text
    · intro htext
      have hback := hnormal hr
      rw [htext, hnormal hr'] at hback
      exact (Except.ok.inj hback).symm

/-- A plus, zeros in front and blank space of several kinds are left out of the normal form, and the
worker group keeps its underscores. -/
theorem parse_grammar_padded :
    let raw := "+02_ 10\u00a0_003_\t-7\n_-1_gpu_a"
    let raw' := "2_+010_3_\u2003-07_-00_gpu_a"
    let ofTime (t : Instant) : Reference := ⟨.medium, ⟨10⟩, .low, ⟨-7⟩, t, "gpu_a"⟩
    let r := ofTime ⟨-1, 86399, 999000000, by decide, by decide, by decide, by decide⟩
    let r' := ofTime Instant.epoch
    (parse raw = .ok r ∧ parse raw' = .ok r') ∧ parse r.text = .ok r ∧
      (r = r' ↔ r.text = r'.text) := by
  intro raw raw' ofTime r r'
  have hraw : parse raw = .ok r := parse_eq_ok_iff.2 (by decide +kernel)
  have hraw' : parse raw' = .ok r' := parse_eq_ok_iff.2 (by decide +kernel)
  obtain ⟨-, -, -, hnormal, hequal⟩ := parse_grammar raw
  exact ⟨⟨hraw, hraw'⟩, hnormal r hraw, hequal r raw' r' hraw hraw'⟩

end Reference

end Handoff
