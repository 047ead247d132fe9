import Handoff.Proofs.Text.Problems
/-!
# Ids in text

An id is read from its bare number. A text that is such a number of 64 bits, with blank space around
it, is read as this number, and any other text is refused because of the first problem in it.

* `Id.exists_ofText_iff`: the numbers that are read.
* `Id.ofText_eq_error_iff`, `Id.ofText_eq_empty_iff`: the texts that are refused, and why.
* `Id.ofText_exact`: **all of this, for every text**; and every id is read back from its digits.
-/

namespace Handoff.Id

open Text

variable {kind : IdKind} {cs : List Char} {fault : IntegerFault}

/-- A number is read exactly if the text spells it and it has 64 bits. -/
theorem exists_ofText_iff {i : Int} :
    (∃ id : Id kind, ofText cs = .ok id ∧ id.toInt = i) ↔ SpellsInt (trim cs) i ∧ Fits64 i := by
  constructor
  · rintro ⟨id, hid, rfl⟩
    exact ⟨ofText_eq_ok_iff.1 hid, fits64_toInt id.value⟩
  · rintro ⟨hspells, hfits⟩
    have hi : (⟨Int64.ofInt i⟩ : Id kind).toInt = i := hfits.toInt_ofInt
    exact ⟨⟨Int64.ofInt i⟩, ofText_eq_ok_iff.2 (hi.symm ▸ hspells), hi⟩

theorem ofText_eq_error_iff :
    (ofText cs : Except IntegerFault (Id kind)) = .error fault ↔ Refused64 (trim cs) fault := by
  rw [ofText, map_eq_error_iff, readInt64_eq_error_iff]

/-- A text is refused as empty exactly if it is blank throughout. -/
theorem ofText_eq_empty_iff :
    (ofText cs : Except IntegerFault (Id kind)) = .error .empty ↔ ∀ c ∈ cs, isBlank c = true := by
  rw [ofText_eq_error_iff, Refused64, refused_empty_iff, trim_eq_nil, allBlank, List.all_eq_true]

/-- **An id is read exactly from the texts whose body spells a number of 64 bits**, and is this number.
A blank text is refused as empty, and any other text that is refused is so because of the first
problem in its body. Every id is read back from its digits, whatever blank space stands around them. -/
theorem ofText_exact (kind : IdKind) :
    (∀ cs, ∃ body, (∀ body', Stripped cs body' ↔ body' = body) ∧
      (∀ i, (∃ id : Id kind, ofText cs = .ok id ∧ id.toInt = i) ↔ SpellsInt body i ∧ Fits64 i) ∧
      ((ofText cs : Except IntegerFault (Id kind)) = .error .empty ↔ ∀ c ∈ cs, isBlank c = true) ∧
      ∀ fault, (ofText cs : Except IntegerFault (Id kind)) = .error fault ↔ Refused64 body fault) ∧
    ∀ (id : Id kind) (before after : List Char), (∀ c ∈ before, isBlank c = true) →
      (∀ c ∈ after, isBlank c = true) → ofText (before ++ (id.digits.toList ++ after)) = .ok id := by
  constructor
  · intro cs
    refine ⟨trim cs, fun body => ?_, fun i => exists_ofText_iff, ofText_eq_empty_iff,
      fun fault => ofText_eq_error_iff⟩
    rw [← trim_eq_iff, eq_comm]
  · intro id before after hbefore hafter
    exact ofText_padded (List.all_eq_true.2 hbefore) (List.all_eq_true.2 hafter) id

/-- The lowest id there is, between blanks; a number that is too large before its bad character is met;
a bad character where a digit would be too large as well; and the number below the lowest id. -/
theorem ofText_exact_at_limits :
    let before := ['\u00a0', '\t']
    let after := ['\u3000']
    let lowest : TaskId := ⟨-9223372036854775808⟩
    ((∀ c ∈ before, isBlank c = true) ∧ (∀ c ∈ after, isBlank c = true) ∧
      ofText (before ++ (lowest.digits.toList ++ after)) = .ok lowest) ∧
    Refused64 "+9223372036854775808x".toList .tooLarge ∧
    Refused64 "922337203685477581x".toList .invalidDigit ∧
    Refused64 "-9223372036854775809".toList .tooSmall := by
  intro before after lowest
  obtain ⟨hread, hback⟩ := ofText_exact .task
  -- a text without blanks is its own body, so that it is refused for what the reader reports
  have hrefused : ∀ text fault, trim text = text →
      (ofText text : Except IntegerFault TaskId) = .error fault → Refused64 text fault := by
    intro text fault htrim h
    obtain ⟨body, hbody, -, -, hfault⟩ := hread text
    rw [(hbody text).1 (trim_eq_iff.1 htrim)]
    exact (hfault fault).1 h
  have hbefore : ∀ c ∈ before, isBlank c = true := List.all_eq_true.1 rfl
  have hafter : ∀ c ∈ after, isBlank c = true := List.all_eq_true.1 rfl
  refine ⟨⟨hbefore, hafter, hback lowest before after hbefore hafter⟩, ?_, ?_, ?_⟩
  · exact hrefused _ _ (by decide +kernel) (by rfl)
  · exact hrefused _ _ (by decide +kernel) (by rfl)
  · exact hrefused _ _ (by decide +kernel) (by rfl)

end Handoff.Id
