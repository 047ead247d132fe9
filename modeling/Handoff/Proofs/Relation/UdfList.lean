import Handoff.Proofs.Text.Numbers
import Handoff.Proofs.Text.Split
import Handoff.Relation.UdfList
import Mathlib.Data.List.Forall2
/-!
# How lists of functions are read

A list is cut at its commas. The longest end of blank entries does not count, though one entry always
does, and every entry that counts has to be an id.

* `UdfList.Entries`, `UdfList.Counted`, `UdfList.IsId`, `UdfList.Denotes`: what a list is made of, and
  which ids it denotes, told without the reader.
* `dropBlankEnd_eq_iff`: the entries that are kept are those that count.
* `readEntries_eq_ok_iff`, `readEntries_eq_error_iff`: entries are read as their ids, or else the first
  one that is no id is to blame.
* `readUdfIds_eq_error`: a list that cannot be read has an entry that is no id.
* `UdfList.read_counted`: **a list is read as the ids of the entries that count**; in particular, ids
  with blank space around them and blank entries at the end are read as these ids.
-/

namespace Handoff

open Text

variable {entry list : List Char} {entries kept : List (List Char)} {fault : Fault}

/-! ## What a list is made of -/

namespace UdfList

/-- The entries of a list are what stands between its commas. -/
structure Entries (list : List Char) (entries : List (List Char)) : Prop where
  ne_nil : entries ≠ []
  join_eq : join ',' entries = list
  notMem : ∀ entry ∈ entries, ',' ∉ entry

/-- The entries at the end are blank. -/
def BlankEnd (entries kept dropped : List (List Char)) : Prop :=
  kept ++ dropped = entries ∧ kept ≠ [] ∧ ∀ entry ∈ dropped, trim entry = []

/-- The entries that count: the others are the longest blank end that leaves an entry. -/
def Counted (entries kept : List (List Char)) : Prop :=
  ∃ dropped, BlankEnd entries kept dropped ∧
    ∀ kept' dropped', BlankEnd entries kept' dropped' → dropped'.length ≤ dropped.length

/-- The entry, blank space around it left aside, is a number of 64 bits. -/
def IsId (entry : List Char) : Prop :=
  ∃ i, SpellsInt (trim entry) i ∧ Fits64 i

/-- The ids that a list denotes: those of the entries that count, one by one. -/
def Denotes (list : List Char) (ids : List UdfId) : Prop :=
  ∃ entries kept, Entries list entries ∧ Counted entries kept ∧
    List.Forall₂ (fun entry id => SpellsInt (trim entry) (Id.toInt id)) kept ids

theorem splitAll_eq_iff_entries : splitAll ',' list = entries ↔ Entries list entries := by
  rw [splitAll_eq_iff]
  exact ⟨fun ⟨hne, hjoin, hparts⟩ => ⟨hne, hjoin, hparts⟩,
    fun h => ⟨h.ne_nil, h.join_eq, h.notMem⟩⟩

/-- A blank entry is no id. -/
theorem not_isId_of_blank (h : trim entry = []) : ¬ IsId entry := by
  rintro ⟨i, hi, -⟩
  rw [h, spellsInt_iff_of_ne_minus (by simp)] at hi
  obtain ⟨n, hn, -⟩ := hi
  rw [spellsNat_iff_of_ne_plus (by simp)] at hn
  exact hn.1.1 rfl

/-- The last of several entries is not blank; a single entry may be. -/
def EndsFilled (kept : List (List Char)) : Prop :=
  ∀ first last, first ≠ [] → kept = first ++ [last] → trim last ≠ []

theorem endsFilled_singleton (entry : List Char) : EndsFilled [entry] := by
  intro first last hfirst heq
  have hlength : 1 = first.length + 1 := by simpa using congrArg List.length heq
  exact absurd (List.eq_nil_of_length_eq_zero (by omega)) hfirst

theorem endsFilled_pair {only : List Char} (h : trim only ≠ []) : EndsFilled [entry, only] := by
  intro first last _ heq
  have hsplit : [entry] ++ [only] = first ++ [last] := heq
  obtain ⟨-, hlast⟩ := List.append_inj' hsplit rfl
  rwa [← List.singleton_inj.1 hlast]

/-- An entry in front of several ones changes nothing about the last one. -/
theorem EndsFilled.cons (h : EndsFilled kept) (hmany : ∀ only, kept ≠ [only]) :
    EndsFilled (entry :: kept) := by
  intro first last hfirst heq
  obtain ⟨head, rest, rfl⟩ := List.exists_cons_of_ne_nil hfirst
  rw [List.cons_append, List.cons.injEq] at heq
  refine h rest last ?_ heq.2
  rintro rfl
  exact hmany last heq.2

/-- Entries count if the last of them is not blank, and those that follow are. -/
theorem BlankEnd.counted {dropped : List (List Char)} (h : BlankEnd entries kept dropped)
    (hlast : EndsFilled kept) : Counted entries kept := by
  obtain ⟨rfl, hne, hdropped⟩ := h
  refine ⟨dropped, ⟨rfl, hne, hdropped⟩, ?_⟩
  rintro kept' dropped' ⟨happend, hne', hblank⟩
  -- a longer blank end would hold the last entry kept, and not all of them
  rcases List.append_eq_append_iff.1 happend with ⟨more, rfl, rfl⟩ | ⟨more, rfl, rfl⟩
  · rcases List.eq_nil_or_concat more with rfl | ⟨middle, last, rfl⟩
    · simp
    · have hfilled : trim last ≠ [] := hlast (kept' ++ middle) last (by simp [hne']) (by simp)
      exact absurd (hblank last (by simp)) hfilled
  · simp

/-- Only one choice of entries counts. -/
theorem Counted.unique {kept' : List (List Char)} (h : Counted entries kept)
    (h' : Counted entries kept') : kept = kept' := by
  obtain ⟨dropped, hend, hlongest⟩ := h
  obtain ⟨dropped', hend', hlongest'⟩ := h'
  have hlength : dropped.length = dropped'.length :=
    Nat.le_antisymm (hlongest' _ _ hend) (hlongest _ _ hend')
  exact (List.append_inj' (hend.1.trans hend'.1.symm) hlength).1

end UdfList

open UdfList

/-! ## The entries that are kept -/

/-- Only blank entries are dropped, and never all entries. -/
theorem exists_blankEnd_dropBlankEnd (h : entries ≠ []) :
    ∃ dropped, BlankEnd entries (dropBlankEnd entries) dropped := by
  induction entries with
  | nil => exact absurd rfl h
  | cons entry entries ih =>
    by_cases hentries : entries = []
    · subst hentries
      exact ⟨[], rfl, by simp [dropBlankEnd], by simp⟩
    obtain ⟨dropped, happend, hne, hblank⟩ := ih hentries
    simp only [dropBlankEnd]
    split
    · rename_i hnil
      exact absurd hnil hne
    · rename_i only honly
      rw [honly] at happend
      split
      · rename_i hall
        refine ⟨only :: dropped, by rw [← happend]; rfl, by simp, ?_⟩
        exact List.forall_mem_cons.2 ⟨trim_eq_nil.2 hall, hblank⟩
      · exact ⟨dropped, by rw [← happend]; rfl, by simp, hblank⟩
    · exact ⟨dropped, by rw [List.cons_append, happend], by simp, hblank⟩

/-- The last entry that is kept is not blank, unless it is the only one. -/
theorem endsFilled_dropBlankEnd (entries : List (List Char)) :
    EndsFilled (dropBlankEnd entries) := by
  induction entries with
  | nil =>
    intro first last _ heq
    simp [dropBlankEnd] at heq
  | cons entry entries ih =>
    simp only [dropBlankEnd]
    split
    · exact endsFilled_singleton entry
    · split
      · exact endsFilled_singleton entry
      · rename_i hfilled
        exact endsFilled_pair (mt trim_eq_nil.1 hfilled)
    · rename_i hmany
      exact ih.cons hmany

/-- **The entries that are kept are those that count.** -/
theorem dropBlankEnd_eq_iff (h : entries ≠ []) :
    dropBlankEnd entries = kept ↔ Counted entries kept := by
  obtain ⟨dropped, hend⟩ := exists_blankEnd_dropBlankEnd h
  have hcounted : Counted entries (dropBlankEnd entries) :=
    hend.counted (endsFilled_dropBlankEnd entries)
  constructor
  · rintro rfl
    exact hcounted
  · exact hcounted.unique

/-! ## Reading entries -/

theorem readUdfId_eq_ok_iff {id : UdfId} :
    readUdfId entry = .ok id ↔ SpellsInt (trim entry) id.toInt := by
  rw [← Id.ofText_eq_ok_iff]
  unfold readUdfId
  cases (Id.ofText entry : Except IntegerFault UdfId) <;> simp

theorem exists_readUdfId_iff : (∃ id, readUdfId entry = .ok id) ↔ IsId entry := by
  unfold IsId
  rw [← exists_readInt64_iff]
  constructor
  · rintro ⟨id, hid⟩
    exact ⟨id.value, readInt64_eq_ok_iff.2 (readUdfId_eq_ok_iff.1 hid)⟩
  · rintro ⟨v, hv⟩
    exact ⟨⟨v⟩, readUdfId_eq_ok_iff.2 (readInt64_eq_ok_iff.1 hv)⟩

/-- The fault of an entry shows it as it stands, and tells what is wrong with the number in it. -/
theorem readUdfId_eq_error_iff :
    readUdfId entry = .error fault ↔
      ∃ cause, readInt64 (trim entry) = .error cause ∧
        fault = .invalidUdfId (String.ofList entry) cause := by
  unfold readUdfId Id.ofText
  cases readInt64 (trim entry) <;> simp [Except.map, eq_comm]

/-- Entries are read as their ids, one by one. -/
theorem readEntries_eq_ok_iff {ids : List UdfId} :
    readEntries entries = .ok ids ↔
      List.Forall₂ (fun entry id => SpellsInt (trim entry) id.toInt) entries ids := by
  simp only [← readUdfId_eq_ok_iff]
  induction entries generalizing ids with
  | nil =>
    rw [List.forall₂_nil_left_iff, readEntries, Except.ok.injEq, eq_comm]
  | cons entry entries ih =>
    rw [List.forall₂_cons_left_iff]
    simp only [← ih, readEntries]
    cases readUdfId entry with
    | error fault => simp
    | ok id =>
      cases readEntries entries with
      | error fault => simp
      | ok rest => simp [eq_comm]

/-- The fault is that of the first entry, or of a later one after an id. -/
theorem readEntries_cons_eq_error_iff :
    readEntries (entry :: entries) = .error fault ↔
      readUdfId entry = .error fault ∨ IsId entry ∧ readEntries entries = .error fault := by
  rw [← exists_readUdfId_iff, readEntries]
  cases readUdfId entry with
  | error first => simp
  | ok id => cases readEntries entries <;> simp

/-- The first entry that is no id is to blame. -/
theorem readEntries_eq_error_iff :
    readEntries entries = .error fault ↔
      ∃ before bad after cause, entries = before ++ bad :: after ∧ (∀ entry ∈ before, IsId entry) ∧
        readInt64 (trim bad) = .error cause ∧ fault = .invalidUdfId (String.ofList bad) cause := by
  induction entries with
  | nil => simp [readEntries]
  | cons entry entries ih =>
    rw [readEntries_cons_eq_error_iff, readUdfId_eq_error_iff, ih]
    constructor
    · rintro (⟨cause, hbad⟩ | ⟨hid, before, bad, after, cause, rfl, hbefore, hbad⟩)
      · exact ⟨[], entry, entries, cause, rfl, by simp, hbad⟩
      · exact ⟨entry :: before, bad, after, cause, rfl,
          List.forall_mem_cons.2 ⟨hid, hbefore⟩, hbad⟩
    · rintro ⟨before, bad, after, cause, happend, hbefore, hbad⟩
      cases before with
      | nil =>
        obtain ⟨rfl, -⟩ := List.cons.inj happend
        exact .inl ⟨cause, hbad⟩
      | cons first before =>
        obtain ⟨rfl, rfl⟩ := List.cons.inj happend
        obtain ⟨hid, hbefore⟩ := List.forall_mem_cons.1 hbefore
        exact .inr ⟨hid, before, bad, after, cause, rfl, hbefore, hbad⟩

/-- A list that cannot be read has an entry that is no id. -/
theorem readUdfIds_eq_error (h : readUdfIds list = .error fault) :
    ∃ entry ∈ dropBlankEnd (splitAll ',' list), ∃ cause,
      (Id.ofText entry : Except IntegerFault UdfId) = .error cause ∧
        fault = .invalidUdfId (String.ofList entry) cause := by
  obtain ⟨before, bad, after, cause, happend, -, hcause, hfault⟩ := readEntries_eq_error_iff.1 h
  refine ⟨bad, by simp [happend], cause, ?_, hfault⟩
  unfold Id.ofText
  rw [hcause]
  rfl

/-! ## Ids with blank space around them -/

namespace UdfList

theorem notMem_of_allBlank {cs : List Char} (h : allBlank cs = true) {c : Char}
    (hc : isBlank c = false) : c ∉ cs := by
  intro hmem
  rw [List.all_eq_true.1 h c hmem] at hc
  cases hc

/-- An id, and the blank space written around it. -/
structure PaddedId where
  before : List Char
  id : UdfId
  after : List Char
  before_blank : allBlank before = true := by decide
  after_blank : allBlank after = true := by decide

namespace PaddedId

/-- The entry of an id. -/
def text (p : PaddedId) : List Char :=
  p.before ++ (p.id.digits.toList ++ p.after)

theorem ofText_text (p : PaddedId) : Id.ofText p.text = .ok p.id :=
  Id.ofText_padded p.before_blank p.after_blank p.id

theorem spellsInt_trim_text (p : PaddedId) : SpellsInt (trim p.text) p.id.toInt :=
  Id.ofText_eq_ok_iff.1 p.ofText_text

theorem trim_text_ne_nil (p : PaddedId) : trim p.text ≠ [] := by
  intro hblank
  exact not_isId_of_blank hblank ⟨p.id.toInt, p.spellsInt_trim_text, fits64_toInt p.id.value⟩

theorem comma_notMem_text (p : PaddedId) : ',' ∉ p.text := by
  have hcomma : isBlank ',' = false := by decide
  simp only [text, List.mem_append, not_or]
  refine ⟨notMem_of_allBlank p.before_blank hcomma, ?_, notMem_of_allBlank p.after_blank hcomma⟩
  exact notMem_showInt (by decide) (by decide)

end PaddedId

/-! ## Reading lists -/

theorem readUdfIds_eq (h : Entries list entries) (hkept : Counted entries kept) :
    readUdfIds list = readEntries kept := by
  rw [readUdfIds, splitAll_eq_iff_entries.2 h, (dropBlankEnd_eq_iff h.ne_nil).2 hkept]

/-- Ids are read in their order, whatever blank space stands around them and however many blank
entries follow them. -/
theorem readUdfIds_padded {ids : List PaddedId} {blanks : List (List Char)} (hids : ids ≠ [])
    (hblanks : ∀ entry ∈ blanks, trim entry = []) :
    readUdfIds (join ',' (ids.map PaddedId.text ++ blanks)) = .ok (ids.map PaddedId.id) := by
  have hentries : Entries (join ',' (ids.map PaddedId.text ++ blanks))
      (ids.map PaddedId.text ++ blanks) := by
    refine ⟨by simp [hids], rfl, List.forall_mem_append.2 ⟨?_, fun entry hentry => ?_⟩⟩
    · rintro entry hentry
      obtain ⟨p, -, rfl⟩ := List.mem_map.1 hentry
      exact p.comma_notMem_text
    · exact notMem_of_allBlank (trim_eq_nil.1 (hblanks entry hentry)) (by decide)
  have hcounted : Counted (ids.map PaddedId.text ++ blanks) (ids.map PaddedId.text) := by
    have hend : BlankEnd (ids.map PaddedId.text ++ blanks) (ids.map PaddedId.text) blanks :=
      ⟨rfl, by simp [hids], hblanks⟩
    refine hend.counted fun first last _ heq => ?_
    have hlast : last ∈ ids.map PaddedId.text := by simp [heq]
    obtain ⟨p, -, rfl⟩ := List.mem_map.1 hlast
    exact p.trim_text_ne_nil
  rw [readUdfIds_eq hentries hcounted, readEntries_eq_ok_iff, List.forall₂_map_left_iff,
    List.forall₂_map_right_iff, List.forall₂_same]
  exact fun p _ => p.spellsInt_trim_text

/-- A list with an entry that counts and is no id cannot be read. -/
theorem exists_fault_of_not_isId (h : Entries list entries) (hkept : Counted entries kept)
    (hentry : entry ∈ kept) (hid : ¬ IsId entry) : ∃ fault, readUdfIds list = .error fault := by
  rw [readUdfIds_eq h hkept]
  cases hread : readEntries kept with
  | error fault => exact ⟨fault, rfl⟩
  | ok ids =>
    have hids : List.Forall₂ (fun entry id => IsId entry ∧ SpellsInt (trim entry) (Id.toInt id))
        kept ids := by
      refine (readEntries_eq_ok_iff.1 hread).imp fun entry id hspells => ⟨?_, hspells⟩
      exact ⟨id.toInt, hspells, fits64_toInt id.value⟩
    exact absurd (((List.forall₂_and_left _ _).1 hids).1 entry hentry) hid

theorem entries_splitAll (list : List Char) : Entries list (splitAll ',' list) :=
  splitAll_eq_iff_entries.1 rfl

theorem counted_dropBlankEnd (list : List Char) :
    Counted (splitAll ',' list) (dropBlankEnd (splitAll ',' list)) :=
  (dropBlankEnd_eq_iff (entries_splitAll list).ne_nil).1 rfl

/-- A list is read as the ids that it denotes. -/
theorem readUdfIds_eq_ok_iff {ids : List UdfId} : readUdfIds list = .ok ids ↔ Denotes list ids := by
  constructor
  · intro hread
    exact ⟨_, _, entries_splitAll list, counted_dropBlankEnd list, readEntries_eq_ok_iff.1 hread⟩
  · rintro ⟨entries, kept, hentries, hcounted, hids⟩
    rw [readUdfIds_eq hentries hcounted]
    exact readEntries_eq_ok_iff.2 hids

/-- A gap in front of an id spoils the list. -/
theorem exists_fault_of_gap {before after : List (List Char)} {gap : List Char}
    (h : Entries list (before ++ gap :: after)) (hgap : trim gap = [])
    (hafter : ∃ entry ∈ after, IsId entry) : ∃ fault, readUdfIds list = .error fault := by
  obtain ⟨entry, hentry, hid⟩ := hafter
  have hcounted := counted_dropBlankEnd list
  rw [splitAll_eq_iff_entries.2 h] at hcounted
  -- the id is not dropped, and so neither is the gap in front of it
  have hmem : gap ∈ dropBlankEnd (before ++ gap :: after) := by
    obtain ⟨dropped, ⟨happend, -, hblank⟩, -⟩ := hcounted
    rcases List.append_eq_append_iff.1 happend with ⟨more, -, rfl⟩ | ⟨more, hkept, hmore⟩
    · exact absurd hid (not_isId_of_blank (hblank entry (by simp [hentry])))
    · cases more with
      | nil =>
        rw [List.nil_append] at hmore
        exact absurd hid (not_isId_of_blank (hblank entry (by simp [← hmore, hentry])))
      | cons first more =>
        obtain ⟨rfl, -⟩ := List.cons.inj hmore
        simp [hkept]
  exact exists_fault_of_not_isId h hcounted hmem (not_isId_of_blank hgap)

/-- A list of nothing but blanks and commas cannot be read. -/
theorem exists_fault_of_blank (h : ∀ c ∈ list, c = ',' ∨ isBlank c = true) :
    ∃ fault, readUdfIds list = .error fault := by
  have hentries := entries_splitAll list
  obtain ⟨dropped, ⟨happend, hne, -⟩, -⟩ := counted_dropBlankEnd list
  obtain ⟨entry, hentry⟩ := List.exists_mem_of_ne_nil _ hne
  have hpart : entry ∈ splitAll ',' list := by
    rw [← happend]
    exact List.mem_append_left _ hentry
  have hblank : allBlank entry = true := by
    refine List.all_eq_true.2 fun c hc => ?_
    have hc' : c ∈ list := by
      rw [← hentries.join_eq]
      exact mem_join hpart hc
    rcases h c hc' with rfl | hblank
    · exact absurd hc (hentries.notMem entry hpart)
    · exact hblank
  exact exists_fault_of_not_isId hentries (counted_dropBlankEnd list) hentry
    (not_isId_of_blank (trim_eq_nil.2 hblank))

/-- **A list is read as the ids of the entries that count**, in their order and with repetitions, or
else the first of these entries that is no id is to blame. Ids are read back from a list of them,
whatever blank space stands around them and however many blank entries follow; a gap in front of an
id spoils the list, and so does the lack of anything but blanks and commas. -/
theorem read_counted :
    (∀ list, ∃ entries kept,
      (∀ entries', Entries list entries' ↔ entries' = entries) ∧
      (∀ kept', Counted entries kept' ↔ kept' = kept) ∧
      (∀ ids, readUdfIds list = .ok ids ↔
        List.Forall₂ (fun entry id => SpellsInt (trim entry) (Id.toInt id)) kept ids) ∧
      ∀ fault, readUdfIds list = .error fault ↔
        ∃ before bad after cause, kept = before ++ bad :: after ∧ (∀ entry ∈ before, IsId entry) ∧
          readInt64 (trim bad) = .error cause ∧
          fault = .invalidUdfId (String.ofList bad) cause) ∧
    (∀ (ids : List PaddedId) (blanks : List (List Char)), ids ≠ [] →
      (∀ entry ∈ blanks, trim entry = []) →
      readUdfIds (join ',' (ids.map PaddedId.text ++ blanks)) = .ok (ids.map PaddedId.id)) ∧
    (∀ list before gap after, Entries list (before ++ gap :: after) → trim gap = [] →
      (∃ entry ∈ after, IsId entry) → ∃ fault, readUdfIds list = .error fault) ∧
    ∀ list, (∀ c ∈ list, c = ',' ∨ isBlank c = true) → ∃ fault, readUdfIds list = .error fault := by
  refine ⟨fun list => ?_, fun ids blanks => readUdfIds_padded,
    fun list before gap after => exists_fault_of_gap, fun list => exists_fault_of_blank⟩
  have hentries := entries_splitAll list
  refine ⟨splitAll ',' list, dropBlankEnd (splitAll ',' list), fun entries => ?_, fun kept => ?_,
    fun ids => readEntries_eq_ok_iff, fun fault => readEntries_eq_error_iff⟩
  · rw [← splitAll_eq_iff_entries, eq_comm]
  · rw [← dropBlankEnd_eq_iff hentries.ne_nil, eq_comm]

/-- Three ids, one of them twice and one the lowest there is, with blank space and blank entries; a list
with a gap; and a list of blanks. -/
theorem read_counted_padded :
    let ids : List PaddedId :=
      [⟨[' '], ⟨3⟩, [], by decide, by decide⟩,
        ⟨['\t'], ⟨-9223372036854775808⟩, ['\u2003'], by decide, by decide⟩,
        ⟨[], ⟨3⟩, ['\n'], by decide, by decide⟩]
    let blanks : List (List Char) := [[], [' '], ['\u00a0', ' ']]
    ((ids ≠ [] ∧ ∀ entry ∈ blanks, trim entry = []) ∧
      readUdfIds (join ',' (ids.map PaddedId.text ++ blanks)) =
        .ok [⟨3⟩, ⟨-9223372036854775808⟩, ⟨3⟩]) ∧
    (Entries ['3', ',', ' ', ',', '7'] ([['3']] ++ [' '] :: [['7']]) ∧
      ∃ fault, readUdfIds ['3', ',', ' ', ',', '7'] = .error fault) ∧
    ∃ fault, readUdfIds [' ', ',', '\u3000'] = .error fault := by
  intro ids blanks
  obtain ⟨-, hpadded, hgap, hblank⟩ := read_counted
  have hids : ids ≠ [] := by simp [ids]
  have hblanks : ∀ entry ∈ blanks, trim entry = [] := by decide
  have hentries : Entries ['3', ',', ' ', ',', '7'] ([['3']] ++ [' '] :: [['7']]) :=
    ⟨by decide, by decide, by decide⟩
  have htrim : trim ['7'] = ['7'] := by decide
  have hdigits : AllDigits (trim ['7']) := ⟨by decide, by simp [htrim]⟩
  have hseven : IsId ['7'] := ⟨7, .natural (.digits hdigits), by decide, by decide⟩
  have hspaces : isBlank ' ' = true ∧ isBlank '\u3000' = true := by decide
  exact ⟨⟨⟨hids, hblanks⟩, hpadded ids blanks hids hblanks⟩,
    ⟨hentries, hgap _ _ _ _ hentries (by decide) ⟨['7'], by simp, hseven⟩⟩,
    hblank [' ', ',', '\u3000'] (by simp [hspaces])⟩

end UdfList

end Handoff
