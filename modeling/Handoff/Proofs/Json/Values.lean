import Handoff.Proofs.Json.Order
import Mathlib.Data.List.Nodup
import Mathlib.Data.String.Basic
/-!
# JSON values

A value taken from a document keeps what the document says, and is written so that it is read back.
The names of its objects ascend whatever the order was in which they were given, so that this order
makes no difference to the value as long as no name is given twice.

* `Value.Lawful`: the values there are: numbers are in range, and the names of an object ascend;
  `Value.lawful_of_ofDocument?`: every value that a document stands for is one.
* `Document.Unrepeated`: no object gives a name twice.
* `Value.ofDocument?_reordered`: such a document stands for the same value in whatever order the
  members of its objects are written.
* `Value.reordered_document`: what is written for that value is the document but for this order.
* `Value.read?_print`: **a value is read from its text, in whatever order the members of its objects
  are written.**
-/

namespace Handoff.Json

open Document

/-! ## Names given once -/

namespace Document

mutual

/-- No object in the document gives a name twice. -/
def Unrepeated : Document → Prop
  | .array items => ItemsUnrepeated items
  | .object members => (members.map (·.1)).Nodup ∧ MembersUnrepeated members
  | .null | .bool _ | .number _ | .string _ => True

/-- No object in the items gives a name twice. -/
def ItemsUnrepeated : List Document → Prop
  | [] => True
  | d :: ds => d.Unrepeated ∧ ItemsUnrepeated ds

/-- No object in the members gives a name twice. -/
def MembersUnrepeated : List (Option String × Document) → Prop
  | [] => True
  | (_, d) :: ms => d.Unrepeated ∧ MembersUnrepeated ms

end

variable {α : Type} {write : α → Document}

@[simp] theorem unrepeated_text (s : String) : (text s).Unrepeated :=
  trivial

@[simp] theorem unrepeated_int (i : Int) : (int i).Unrepeated :=
  trivial

theorem unrepeated_option (h : ∀ a, (write a).Unrepeated) (a : Option α) :
    (option write a).Unrepeated := by
  cases a with
  | none => trivial
  | some a => exact h a

@[simp] theorem unrepeated_option_text (s : Option String) : (option text s).Unrepeated :=
  unrepeated_option unrepeated_text s

theorem unrepeated_list (h : ∀ a, (write a).Unrepeated) (as : List α) :
    (list write as).Unrepeated := by
  show ItemsUnrepeated (as.map write)
  induction as with
  | nil => trivial
  | cons a as ih => exact ⟨h a, ih⟩

/-- A record gives no name twice, if each of its fields is one of the record's own, in their order. -/
theorem unrepeated_record {names : List String} {members : List (String × Document)}
    (hd : names.Nodup) (hn : (members.map (·.1)).Sublist names)
    (h : ∀ m ∈ members, m.2.Unrepeated) : (record members).Unrepeated := by
  refine ⟨?_, ?_⟩
  · have hinj : Function.Injective (some : String → Option String) :=
      fun _ _ h => Option.some.inj h
    have hnames : (members.map fun m => (some m.1, m.2)).map (·.1) =
        (members.map (·.1)).map some := by
      rw [List.map_map, List.map_map]
      rfl
    rw [hnames]
    exact (hd.sublist hn).map hinj
  · clear hn
    induction members with
    | nil => trivial
    | cons m ms ih => exact ⟨h m (by simp), ih fun k hk => h k (by simp [hk])⟩

/-- Members put in another order inside keep their names. -/
theorem names_membersReordered {ms ns : List (Option String × Document)}
    (h : MembersReordered ms ns) : ns.map (·.1) = ms.map (·.1) := by
  induction ms generalizing ns with
  | nil =>
    cases h
    rfl
  | cons m ms ih =>
    obtain ⟨name, d⟩ := m
    obtain ⟨e, rest, rfl, -, hrest⟩ := h
    rw [List.map_cons, List.map_cons, ih hrest]

end Document

namespace Value

/-! ## Members at their place -/

section Members

variable {name other : String} {v w : Value} {ms : List (String × Value)}

/-- The names ascend, so that none is given twice. -/
def Ascending (ms : List (String × Value)) : Prop :=
  ms.Pairwise fun m n => m.1 < n.1

/-- A name below all others comes first. -/
theorem addMember_of_lt (h : ∀ m ∈ ms, name < m.1) : addMember name v ms = (name, v) :: ms := by
  cases ms with
  | nil => rfl
  | cons m ms =>
    have hlt : name < m.1 := h m (by simp)
    rw [addMember, if_neg (ne_of_lt hlt), if_pos hlt]

theorem mem_addMember {m : String × Value} (h : m ∈ addMember name v ms) :
    m = (name, v) ∨ m ∈ ms := by
  induction ms with
  | nil => exact .inl (List.mem_singleton.1 h)
  | cons n ns ih =>
    unfold addMember at h
    split at h
    · exact .inr h
    · split at h
      · exact List.mem_cons.1 h
      · rcases List.mem_cons.1 h with rfl | h
        · exact .inr (by simp)
        · rcases ih h with h | h
          · exact .inl h
          · exact .inr (by simp [h])

theorem ascending_addMember (h : Ascending ms) : Ascending (addMember name v ms) := by
  induction ms with
  | nil => exact List.pairwise_singleton _ _
  | cons n ns ih =>
    obtain ⟨hn, hns⟩ := List.pairwise_cons.1 h
    unfold addMember
    split
    · exact h
    · rename_i hne
      split
      · rename_i hlt
        refine List.pairwise_cons.2 ⟨?_, h⟩
        intro m hm
        rcases List.mem_cons.1 hm with rfl | hm
        · exact hlt
        · exact lt_trans hlt (hn m hm)
      · rename_i hge
        refine List.pairwise_cons.2 ⟨?_, ih hns⟩
        intro m hm
        rcases mem_addMember hm with rfl | hm
        · exact lt_of_le_of_ne (not_lt.1 hge) (Ne.symm hne)
        · exact hn m hm

/-- Members of different names may be added in either order. -/
theorem addMember_comm (h : name ≠ other) :
    addMember name v (addMember other w ms) = addMember other w (addMember name v ms) := by
  induction ms with
  | nil =>
    rcases lt_or_gt_of_ne h with hlt | hlt
    · simp only [addMember, if_neg h, if_neg h.symm, if_pos hlt, if_neg (lt_asymm hlt)]
    · simp only [addMember, if_neg h, if_neg h.symm, if_pos hlt, if_neg (lt_asymm hlt)]
  | cons m ms ih =>
    -- each of the two names stands before, at or after the first one in the list
    have hname := lt_trichotomy name m.1
    have hother := lt_trichotomy other m.1
    grind [addMember]

/-- A member of a new name is added, and nothing else changes. -/
theorem addMember_perm (h : name ∉ ms.map (·.1)) :
    (addMember name v ms).Perm ((name, v) :: ms) := by
  induction ms with
  | nil => exact List.Perm.refl _
  | cons m ms ih =>
    have hne : name ≠ m.1 := by
      rintro rfl
      simp at h
    have hrest : name ∉ ms.map (·.1) := fun hmem => h (List.mem_cons_of_mem _ hmem)
    unfold addMember
    rw [if_neg hne]
    split
    · exact List.Perm.refl _
    · exact ((ih hrest).cons m).trans (List.Perm.swap _ _ _)

end Members

/-! ## Lawful values -/

mutual

/-- The numbers in the value are in range, and the names of its objects ascend. -/
def Lawful : Value → Prop
  | .number n => n.inRange = true
  | .array items => ItemsLawful items
  | .object members => Ascending members ∧ MembersLawful members
  | .null | .bool _ | .string _ => True

/-- The items are lawful. -/
def ItemsLawful : List Value → Prop
  | [] => True
  | v :: vs => v.Lawful ∧ ItemsLawful vs

/-- The members hold lawful values. -/
def MembersLawful : List (String × Value) → Prop
  | [] => True
  | (_, v) :: ms => v.Lawful ∧ MembersLawful ms

end

section Reading

variable {name : Option String} {d : Document} {ds : List Document} {vs : List Value}
  {ms : List (Option String × Document)} {ns : List (String × Value)}

theorem ofItems?_cons_eq_some :
    ofItems? (d :: ds) = some vs ↔
      ∃ v rest, ofDocument? d = some v ∧ ofItems? ds = some rest ∧ v :: rest = vs := by
  simp only [ofItems?]
  cases ofDocument? d <;> cases ofItems? ds <;> simp

theorem ofMembers?_cons_eq_some :
    ofMembers? ((name, d) :: ms) = some ns ↔
      ∃ n v rest, name = some n ∧ ofDocument? d = some v ∧ ofMembers? ms = some rest ∧
        addMember n v rest = ns := by
  simp only [ofMembers?]
  cases name <;> cases ofDocument? d <;> cases ofMembers? ms <;> simp

end Reading

theorem membersLawful_addMember {name : String} {v : Value} (hv : v.Lawful) :
    ∀ {ms : List (String × Value)}, MembersLawful ms → MembersLawful (addMember name v ms)
  | [], _ => ⟨hv, trivial⟩
  | m :: ms, ⟨hm, hms⟩ => by
    unfold addMember
    split
    · exact ⟨hm, hms⟩
    · split
      · exact ⟨hv, hm, hms⟩
      · exact ⟨hm, membersLawful_addMember hv hms⟩

theorem ascending_of_ofMembers? : ∀ {ms : List (Option String × Document)}
    {vs : List (String × Value)}, ofMembers? ms = some vs → Ascending vs
  | [], _, h => by
    cases h
    exact List.Pairwise.nil
  | _ :: _, _, h => by
    obtain ⟨_, _, _, _, _, hms, rfl⟩ := ofMembers?_cons_eq_some.1 h
    exact ascending_addMember (ascending_of_ofMembers? hms)

mutual

/-- Every value that a document stands for is lawful. -/
theorem lawful_of_ofDocument? : ∀ {d : Document} {v : Value}, ofDocument? d = some v → v.Lawful
  | .null, _, h | .bool _, _, h => by
    cases h
    trivial
  | .number n, _, h => by
    simp only [ofDocument?, Option.ite_none_right_eq_some] at h
    obtain ⟨hrange, hv⟩ := h
    cases hv
    exact hrange
  | .string s, _, h => by
    obtain ⟨_, -, rfl⟩ := Option.map_eq_some_iff.1 h
    trivial
  | .array items, _, h => by
    obtain ⟨_, hitems, rfl⟩ := Option.map_eq_some_iff.1 h
    exact itemsLawful_of_ofItems? hitems
  | .object members, _, h => by
    obtain ⟨_, hmembers, rfl⟩ := Option.map_eq_some_iff.1 h
    exact ⟨ascending_of_ofMembers? hmembers, membersLawful_of_ofMembers? hmembers⟩

theorem itemsLawful_of_ofItems? : ∀ {ds : List Document} {vs : List Value},
    ofItems? ds = some vs → ItemsLawful vs
  | [], _, h => by
    cases h
    trivial
  | _ :: _, _, h => by
    obtain ⟨_, _, hd, hds, rfl⟩ := ofItems?_cons_eq_some.1 h
    exact ⟨lawful_of_ofDocument? hd, itemsLawful_of_ofItems? hds⟩

theorem membersLawful_of_ofMembers? : ∀ {ms : List (Option String × Document)}
    {vs : List (String × Value)}, ofMembers? ms = some vs → MembersLawful vs
  | [], _, h => by
    cases h
    trivial
  | (_, _) :: _, _, h => by
    obtain ⟨_, _, _, _, hd, hms, rfl⟩ := ofMembers?_cons_eq_some.1 h
    exact membersLawful_addMember (lawful_of_ofDocument? hd) (membersLawful_of_ofMembers? hms)

end

/-! ## Depth and soundness -/

theorem membersDepth_addMember (name : String) (v : Value) : ∀ ms : List (String × Value),
    membersDepth (memberDocuments (addMember name v ms)) ≤
      max v.document.depth (membersDepth (memberDocuments ms))
  | [] => Nat.le_refl _
  | m :: ms => by
    have hrest := membersDepth_addMember name v ms
    unfold addMember
    split
    · exact Nat.le_max_right _ _
    · split
      · exact Nat.le_refl _
      · simp only [memberDocuments, membersDepth]
        omega

mutual

/-- A value is not nested deeper than its document: what counts of it is all there. -/
theorem depth_document_le : ∀ {d : Document} {v : Value},
    ofDocument? d = some v → v.document.depth ≤ d.depth
  | .null, _, h | .bool _, _, h => by
    cases h
    exact Nat.le_refl _
  | .number n, _, h => by
    simp only [ofDocument?, Option.ite_none_right_eq_some] at h
    obtain ⟨-, hv⟩ := h
    cases hv
    exact Nat.le_refl _
  | .string s, _, h => by
    obtain ⟨_, -, rfl⟩ := Option.map_eq_some_iff.1 h
    exact Nat.le_refl _
  | .array items, _, h => by
    obtain ⟨_, hitems, rfl⟩ := Option.map_eq_some_iff.1 h
    exact Nat.succ_le_succ (itemsDepth_documents_le hitems)
  | .object members, _, h => by
    obtain ⟨_, hmembers, rfl⟩ := Option.map_eq_some_iff.1 h
    exact Nat.succ_le_succ (membersDepth_documents_le hmembers)

theorem itemsDepth_documents_le : ∀ {ds : List Document} {vs : List Value},
    ofItems? ds = some vs → itemsDepth (itemDocuments vs) ≤ itemsDepth ds
  | [], _, h => by
    cases h
    exact Nat.le_refl _
  | _ :: _, _, h => by
    obtain ⟨_, _, hd, hds, rfl⟩ := ofItems?_cons_eq_some.1 h
    have hfirst := depth_document_le hd
    have hrest := itemsDepth_documents_le hds
    simp only [itemDocuments, itemsDepth]
    omega

theorem membersDepth_documents_le : ∀ {ms : List (Option String × Document)}
    {vs : List (String × Value)},
    ofMembers? ms = some vs → membersDepth (memberDocuments vs) ≤ membersDepth ms
  | [], _, h => by
    cases h
    exact Nat.le_refl _
  | (_, _) :: _, _, h => by
    obtain ⟨n, v, rest, _, hd, hms, rfl⟩ := ofMembers?_cons_eq_some.1 h
    have hfirst := depth_document_le hd
    have hrest := membersDepth_documents_le hms
    have hadded := membersDepth_addMember n v rest
    simp only [membersDepth]
    omega

end

mutual

/-- A sound document stands for a value. -/
theorem exists_ofDocument?_of_sound : ∀ {d : Document},
    d.sound = true → ∃ v, ofDocument? d = some v
  | .null, _ | .bool _, _ => ⟨_, rfl⟩
  | .number _, h => ⟨_, if_pos h⟩
  | .string _, h => by
    obtain ⟨s, rfl⟩ := Option.isSome_iff_exists.1 h
    exact ⟨_, rfl⟩
  | .array _, h => by
    obtain ⟨vs, hvs⟩ := exists_ofItems?_of_sound h
    exact ⟨.array vs, Option.map_eq_some_iff.2 ⟨vs, hvs, rfl⟩⟩
  | .object _, h => by
    obtain ⟨vs, hvs⟩ := exists_ofMembers?_of_sound h
    exact ⟨.object vs, Option.map_eq_some_iff.2 ⟨vs, hvs, rfl⟩⟩

theorem exists_ofItems?_of_sound : ∀ {ds : List Document},
    itemsSound ds = true → ∃ vs, ofItems? ds = some vs
  | [], _ => ⟨[], rfl⟩
  | d :: ds, h => by
    obtain ⟨hd, hds⟩ := Bool.and_eq_true_iff.1 h
    obtain ⟨v, hv⟩ := exists_ofDocument?_of_sound hd
    obtain ⟨vs, hvs⟩ := exists_ofItems?_of_sound hds
    exact ⟨v :: vs, ofItems?_cons_eq_some.2 ⟨v, vs, hv, hvs, rfl⟩⟩

theorem exists_ofMembers?_of_sound : ∀ {ms : List (Option String × Document)},
    membersSound ms = true → ∃ vs, ofMembers? ms = some vs
  | [], _ => ⟨[], rfl⟩
  | (name, d) :: ms, h => by
    obtain ⟨hfirst, hms⟩ := Bool.and_eq_true_iff.1 h
    obtain ⟨hname, hd⟩ := Bool.and_eq_true_iff.1 hfirst
    obtain ⟨n, hn⟩ := Option.isSome_iff_exists.1 hname
    obtain ⟨v, hv⟩ := exists_ofDocument?_of_sound hd
    obtain ⟨vs, hvs⟩ := exists_ofMembers?_of_sound hms
    exact ⟨_, ofMembers?_cons_eq_some.2 ⟨n, v, vs, hn, hv, hvs, rfl⟩⟩

end

/-! ## The order of members -/

/-- Members of different names may be read in any order. -/
theorem ofMembers?_perm {ms ns : List (Option String × Document)} (hd : (ms.map (·.1)).Nodup)
    (h : ms.Perm ns) : ofMembers? ns = ofMembers? ms := by
  induction h with
  | nil => rfl
  | cons m _ ih =>
    have hrest := ih (List.nodup_cons.1 hd).2
    simp only [ofMembers?, hrest]
  | swap m n ms =>
    obtain ⟨m, d⟩ := m
    obtain ⟨n, e⟩ := n
    have hne : n ≠ m := by
      rintro rfl
      simp at hd
    simp only [ofMembers?]
    -- whatever spoils one of the two members spoils the object, whichever of them is read first
    cases m with
    | none => cases n <;> cases ofDocument? e <;> rfl
    | some m =>
      cases n with
      | none => cases ofDocument? d <;> rfl
      | some n =>
        have hnames : n ≠ m := fun h => hne (congrArg some h)
        cases ofDocument? d with
        | none => cases ofDocument? e <;> rfl
        | some v =>
          cases ofDocument? e with
          | none => cases ofMembers? ms <;> rfl
          | some w =>
            cases ofMembers? ms with
            | none => rfl
            | some vs => exact congrArg some (addMember_comm hnames.symm)
  | trans h₁ _ ih₁ ih₂ =>
    have hd' := (h₁.map (·.1)).nodup_iff.1 hd
    rw [ih₂ hd', ih₁ hd]

mutual

/-- A document that gives no name twice stands for the same value in whatever order the members of
its objects are written. -/
theorem ofDocument?_reordered : ∀ {d e : Document}, d.Reordered e → d.Unrepeated →
    ofDocument? e = ofDocument? d
  | .array _, _, ⟨_, rfl, h⟩, hu => congrArg (Option.map Value.array) (ofItems?_reordered h hu)
  | .object _, _, ⟨same, members, rfl, hp, h⟩, ⟨hd, hu⟩ => by
    have hsame := ofMembers?_reordered h hu
    have hnodup : (same.map (·.1)).Nodup := by rwa [names_membersReordered h]
    have hmembers := ofMembers?_perm hnodup hp
    exact congrArg (Option.map Value.object) (hmembers.trans hsame)
  | .null, _, rfl, _ | .bool _, _, rfl, _ | .number _, _, rfl, _ | .string _, _, rfl, _ => rfl

theorem ofItems?_reordered : ∀ {ds es : List Document}, ItemsReordered ds es →
    ItemsUnrepeated ds → ofItems? es = ofItems? ds
  | [], _, rfl, _ => rfl
  | _ :: _, _, ⟨_, _, rfl, hd, hds⟩, ⟨hu, hus⟩ => by
    simp only [ofItems?, ofDocument?_reordered hd hu, ofItems?_reordered hds hus]

theorem ofMembers?_reordered : ∀ {ms ns : List (Option String × Document)},
    MembersReordered ms ns → MembersUnrepeated ms → ofMembers? ns = ofMembers? ms
  | [], _, rfl, _ => rfl
  | (_, _) :: _, _, ⟨_, _, rfl, hd, hms⟩, ⟨hu, hus⟩ => by
    simp only [ofMembers?, ofDocument?_reordered hd hu, ofMembers?_reordered hms hus]

end

theorem memberDocuments_eq (ms : List (String × Value)) :
    memberDocuments ms = ms.map fun m => (some m.1, m.2.document) := by
  induction ms with
  | nil => rfl
  | cons m ms ih => rw [memberDocuments, ih, List.map_cons]

/-- The names that a value is written with are the names in its document. -/
theorem names_of_ofMembers? : ∀ {ms : List (Option String × Document)}
    {vs : List (String × Value)}, ofMembers? ms = some vs → ∀ m ∈ vs, some m.1 ∈ ms.map (·.1)
  | [], _, h => by
    cases h
    simp
  | (_, _) :: _, _, h => by
    obtain ⟨n, v, rest, rfl, _, hms, rfl⟩ := ofMembers?_cons_eq_some.1 h
    intro m hm
    rcases mem_addMember hm with rfl | hm
    · simp
    · exact List.mem_cons_of_mem _ (names_of_ofMembers? hms m hm)

mutual

/-- What is written for the value of a document that gives no name twice is the document itself, but
for the order of the members. -/
theorem reordered_document : ∀ {d : Document} {v : Value}, ofDocument? d = some v →
    d.Unrepeated → d.Reordered v.document
  | .null, _, h, _ | .bool _, _, h, _ => by
    cases h
    rfl
  | .number n, _, h, _ => by
    simp only [ofDocument?, Option.ite_none_right_eq_some] at h
    obtain ⟨-, hv⟩ := h
    cases hv
    rfl
  | .string s, _, h, _ => by
    obtain ⟨_, rfl, rfl⟩ := Option.map_eq_some_iff.1 h
    rfl
  | .array items, _, h, hu => by
    obtain ⟨vs, hitems, rfl⟩ := Option.map_eq_some_iff.1 h
    exact ⟨itemDocuments vs, rfl, itemsReordered_documents hitems hu⟩
  | .object members, _, h, ⟨hd, hu⟩ => by
    obtain ⟨vs, hmembers, rfl⟩ := Option.map_eq_some_iff.1 h
    obtain ⟨same, hsame, hp⟩ := membersReordered_documents hmembers hd hu
    exact ⟨same, memberDocuments vs, rfl, hp, hsame⟩

theorem itemsReordered_documents : ∀ {ds : List Document} {vs : List Value},
    ofItems? ds = some vs → ItemsUnrepeated ds → ItemsReordered ds (itemDocuments vs)
  | [], _, h, _ => by
    cases h
    rfl
  | _ :: _, _, h, ⟨hu, hus⟩ => by
    obtain ⟨v, vs, hd, hds, rfl⟩ := ofItems?_cons_eq_some.1 h
    exact ⟨v.document, itemDocuments vs, rfl, reordered_document hd hu,
      itemsReordered_documents hds hus⟩

theorem membersReordered_documents : ∀ {ms : List (Option String × Document)}
    {vs : List (String × Value)}, ofMembers? ms = some vs → (ms.map (·.1)).Nodup →
    MembersUnrepeated ms → ∃ same, MembersReordered ms same ∧ same.Perm (memberDocuments vs)
  | [], _, h, _, _ => by
    cases h
    exact ⟨[], rfl, List.Perm.refl _⟩
  | (_, _) :: ms, _, h, hd, ⟨hu, hus⟩ => by
    obtain ⟨n, v, rest, rfl, hv, hms, rfl⟩ := ofMembers?_cons_eq_some.1 h
    obtain ⟨hn, hrest⟩ := List.nodup_cons.1 hd
    obtain ⟨same, hsame, hp⟩ := membersReordered_documents hms hrest hus
    -- the name is new, so that its member goes in without pushing another out
    have hnew : n ∉ rest.map (·.1) := by
      intro hmem
      obtain ⟨m, hm, rfl⟩ := List.mem_map.1 hmem
      exact hn (names_of_ofMembers? hms m hm)
    have hadded := (addMember_perm (v := v) hnew).map fun m => (some m.1, m.2.document)
    rw [← memberDocuments_eq, List.map_cons, ← memberDocuments_eq] at hadded
    exact ⟨(some n, v.document) :: same, ⟨_, _, rfl, reordered_document hv hu, hsame⟩,
      (hp.cons _).trans hadded.symm⟩

end

/-! ## Reading what was written -/

mutual

/-- A lawful value is read from its own document. -/
theorem ofDocument?_document : ∀ {v : Value}, v.Lawful → ofDocument? v.document = some v
  | .null, _ | .bool _, _ | .string _, _ => rfl
  | .number _, h => if_pos h
  | .array _, h => congrArg (Option.map Value.array) (ofItems?_documents h)
  | .object _, ⟨ha, h⟩ => congrArg (Option.map Value.object) (ofMembers?_documents ha h)

theorem ofItems?_documents : ∀ {vs : List Value}, ItemsLawful vs →
    ofItems? (itemDocuments vs) = some vs
  | [], _ => rfl
  | v :: vs, ⟨hv, hvs⟩ =>
    ofItems?_cons_eq_some.2 ⟨v, vs, ofDocument?_document hv, ofItems?_documents hvs, rfl⟩

theorem ofMembers?_documents : ∀ {ms : List (String × Value)}, Ascending ms → MembersLawful ms →
    ofMembers? (memberDocuments ms) = some ms
  | [], _, _ => rfl
  | (name, v) :: ms, ha, ⟨hv, hms⟩ => by
    obtain ⟨hname, hrest⟩ := List.pairwise_cons.1 ha
    exact ofMembers?_cons_eq_some.2 ⟨name, v, ms, rfl, ofDocument?_document hv,
      ofMembers?_documents hrest hms, addMember_of_lt hname⟩

end

mutual

/-- A lawful value is written without giving a name twice. -/
theorem unrepeated_document : ∀ {v : Value}, v.Lawful → v.document.Unrepeated
  | .null, _ | .bool _, _ | .string _, _ | .number _, _ => trivial
  | .array _, h => itemsUnrepeated_documents h
  | .object ms, ⟨ha, h⟩ => by
    refine ⟨?_, membersUnrepeated_documents h⟩
    have hdistinct : ms.Pairwise fun m n => some m.1 ≠ some n.1 :=
      ha.imp fun hlt heq => ne_of_lt hlt (Option.some.inj heq)
    rw [memberDocuments_eq, List.map_map]
    exact List.pairwise_map.2 hdistinct

theorem itemsUnrepeated_documents : ∀ {vs : List Value}, ItemsLawful vs →
    ItemsUnrepeated (itemDocuments vs)
  | [], _ => trivial
  | _ :: _, ⟨hv, hvs⟩ => ⟨unrepeated_document hv, itemsUnrepeated_documents hvs⟩

theorem membersUnrepeated_documents : ∀ {ms : List (String × Value)}, MembersLawful ms →
    MembersUnrepeated (memberDocuments ms)
  | [], _ => trivial
  | (_, _) :: _, ⟨hv, hms⟩ => ⟨unrepeated_document hv, membersUnrepeated_documents hms⟩

end

variable {levels : Nat} {d e : Document} {v : Value}

theorem ofNested?_eq_some_iff :
    ofNested? levels d = some v ↔ d.depth + levels ≤ maxDepth ∧ ofDocument? d = some v :=
  Option.ite_none_right_eq_some

/-- The order of members makes no difference inside other values either. -/
theorem ofNested?_reordered (h : d.Reordered e) (hu : d.Unrepeated) :
    ofNested? levels e = ofNested? levels d := by
  unfold ofNested?
  rw [depth_reordered h, ofDocument?_reordered h hu]

/-- A document that may stand where it does stands for a value, and what is written for the value is
the document again. -/
theorem exists_ofNested? (h : d.admissible levels = true) (hu : d.Unrepeated) :
    ∃ v, ofNested? levels d = some v ∧ d.Reordered v.document := by
  obtain ⟨hsound, hdepth⟩ := Bool.and_eq_true_iff.1 h
  obtain ⟨v, hv⟩ := exists_ofDocument?_of_sound hsound
  exact ⟨v, ofNested?_eq_some_iff.2 ⟨of_decide_eq_true hdepth, hv⟩, reordered_document hv hu⟩

/-- **A lawful value that is not nested too deep is read from its text**, in whatever order the
members of its objects are written. -/
theorem read?_print (hv : v.Lawful) (hdepth : v.document.depth ≤ maxDepth)
    (h : v.document.Reordered e) : read? e.print = some v := by
  have hown : ofNested? 0 v.document = some v :=
    ofNested?_eq_some_iff.2 ⟨hdepth, ofDocument?_document hv⟩
  unfold read?
  rw [Document.read?_print, some_bind, ofNested?_reordered h (unrepeated_document hv), hown]

end Value

/-- The fields of a record are given by what is the record but for the order of members. -/
theorem Fields.exists_reordered {names : List String} {members : List (String × Document)}
    {d : Document} (hd : names.Nodup) (hn : (members.map (·.1)).Sublist names)
    (h : (record members).Reordered d) :
    ∃ f, Fields.read? names d = some f ∧ (Fields.mk true members).Reordered f := by
  have hfields : Option.Rel Fields.Reordered (Fields.read? names (record members))
      (Fields.read? names d) := Fields.reordered_read? h
  rw [Fields.read?_record hd hn] at hfields
  generalize Fields.read? names d = g at *
  cases hfields with
  | some hf => exact ⟨_, rfl, hf⟩

/-- A field that holds any value is read alike in whatever order members are written, if no name is
given twice in it. -/
theorem Fields.Reordered.defaulted_value {f g : Fields} (h : f.Reordered g) {name : String}
    (hu : ∀ d ∈ f.get? name, d.Unrepeated) (levels : Nat) (default : Value) :
    g.defaulted name (Value.ofNested? levels) default =
      f.defaulted name (Value.ofNested? levels) default := by
  have hget := h.get? name
  simp only [Fields.defaulted]
  generalize f.get? name = d, g.get? name = e at *
  cases hget with
  | none => rfl
  | some hde => exact Value.ofNested?_reordered hde (hu _ rfl)

end Handoff.Json
