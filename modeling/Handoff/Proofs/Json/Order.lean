import Handoff.Proofs.Json.Records
import Mathlib.Data.List.Forall2
import Mathlib.Data.List.Perm.Basic
/-!
# The order of members does not matter

Whoever writes an object may put its members in any order. A reader that looks members up by their
names sees no difference, at whatever depth the order was changed.

* `Document.Reordered`: the same document but for the order of members.
* `Document.admissible_reordered`: it may stand where the other may.
* `Steady`: a reader that the order makes no difference to; `Steady.asList`, `Steady.asOption`,
  `Steady.choice`: how such readers are built.
* `Fields.reordered_read?`, `Steady.record`: **a record is read alike in whatever order its fields
  are given.**
-/

namespace Handoff.Json

namespace Document

mutual

/-- The second document is the first one but for the order of the members in its objects. -/
def Reordered : Document → Document → Prop
  | .array items, e => ∃ items', e = .array items' ∧ ItemsReordered items items'
  | .object members, e => ∃ same members', e = .object members' ∧ same.Perm members' ∧
      MembersReordered members same
  | .null, e => e = .null
  | .bool b, e => e = .bool b
  | .number n, e => e = .number n
  | .string s, e => e = .string s

/-- The items are the same, one by one, but for the order of the members in them. -/
def ItemsReordered : List Document → List Document → Prop
  | [], es => es = []
  | d :: ds, es => ∃ e es', es = e :: es' ∧ Reordered d e ∧ ItemsReordered ds es'

/-- The members are the same, one by one, but for the order of the members in them. -/
def MembersReordered :
    List (Option String × Document) → List (Option String × Document) → Prop
  | [], ns => ns = []
  | (name, d) :: ms, ns => ∃ e ns', ns = (name, e) :: ns' ∧ Reordered d e ∧ MembersReordered ms ns'

end

mutual

theorem reordered_refl : ∀ d : Document, Reordered d d
  | .array items => ⟨items, rfl, itemsReordered_refl items⟩
  | .object members => ⟨members, members, rfl, List.Perm.refl _, membersReordered_refl members⟩
  | .null | .bool _ | .number _ | .string _ => rfl

theorem itemsReordered_refl : ∀ items, ItemsReordered items items
  | [] => rfl
  | d :: ds => ⟨d, ds, rfl, reordered_refl d, itemsReordered_refl ds⟩

theorem membersReordered_refl : ∀ members, MembersReordered members members
  | [] => rfl
  | (_, d) :: ms => ⟨d, ms, rfl, reordered_refl d, membersReordered_refl ms⟩

end

/-- A record with its own members in another order. -/
theorem reordered_record {ms ns : List (String × Document)} (h : ms.Perm ns) :
    (record ms).Reordered (record ns) :=
  ⟨_, _, rfl, h.map _, membersReordered_refl _⟩

/-! ## Depth and soundness -/

theorem membersDepth_perm {ms ns : List (Option String × Document)} (h : ms.Perm ns) :
    membersDepth ns = membersDepth ms := by
  induction h with
  | nil => rfl
  | cons m _ ih => simp only [membersDepth, ih]
  | swap m n ms =>
    simp only [membersDepth]
    omega
  | trans _ _ ih₁ ih₂ => exact ih₂.trans ih₁

theorem membersSound_perm {ms ns : List (Option String × Document)} (h : ms.Perm ns) :
    membersSound ns = membersSound ms := by
  induction h with
  | nil => rfl
  | cons m _ ih => simp only [membersSound, ih]
  | swap m n ms =>
    simp only [membersSound]
    exact Bool.and_left_comm _ _ _
  | trans _ _ ih₁ ih₂ => exact ih₂.trans ih₁

mutual

theorem depth_reordered : ∀ {d e : Document}, Reordered d e → e.depth = d.depth
  | .array _, _, ⟨_, rfl, h⟩ => congrArg (· + 1) (itemsDepth_reordered h)
  | .object _, _, ⟨_, _, rfl, hp, h⟩ =>
    congrArg (· + 1) ((membersDepth_perm hp).trans (membersDepth_reordered h))
  | .null, _, rfl | .bool _, _, rfl | .number _, _, rfl | .string _, _, rfl => rfl

theorem itemsDepth_reordered :
    ∀ {ds es : List Document}, ItemsReordered ds es → itemsDepth es = itemsDepth ds
  | [], _, rfl => rfl
  | _ :: _, _, ⟨_, _, rfl, hd, hds⟩ => by
    simp only [itemsDepth, depth_reordered hd, itemsDepth_reordered hds]

theorem membersDepth_reordered : ∀ {ms ns : List (Option String × Document)},
    MembersReordered ms ns → membersDepth ns = membersDepth ms
  | [], _, rfl => rfl
  | (_, _) :: _, _, ⟨_, _, rfl, hd, hms⟩ => by
    simp only [membersDepth, depth_reordered hd, membersDepth_reordered hms]

end

mutual

theorem sound_reordered : ∀ {d e : Document}, Reordered d e → e.sound = d.sound
  | .array _, _, ⟨_, rfl, h⟩ => itemsSound_reordered h
  | .object _, _, ⟨_, _, rfl, hp, h⟩ => (membersSound_perm hp).trans (membersSound_reordered h)
  | .null, _, rfl | .bool _, _, rfl | .number _, _, rfl | .string _, _, rfl => rfl

theorem itemsSound_reordered :
    ∀ {ds es : List Document}, ItemsReordered ds es → itemsSound es = itemsSound ds
  | [], _, rfl => rfl
  | _ :: _, _, ⟨_, _, rfl, hd, hds⟩ => by
    simp only [itemsSound, sound_reordered hd, itemsSound_reordered hds]

theorem membersSound_reordered : ∀ {ms ns : List (Option String × Document)},
    MembersReordered ms ns → membersSound ns = membersSound ms
  | [], _, rfl => rfl
  | (_, _) :: _, _, ⟨_, _, rfl, hd, hms⟩ => by
    simp only [membersSound, sound_reordered hd, membersSound_reordered hms]

end

/-- A document may stand wherever one with the members in another order may. -/
theorem admissible_reordered {d e : Document} (h : Reordered d e) (levels : Nat) :
    e.admissible levels = d.admissible levels := by
  unfold admissible
  rw [sound_reordered h, depth_reordered h]

end Document

open Document

/-! ## Fields -/

/-- A member that a record knows, under its name. -/
def Fields.knownMember (names : List String) (m : Option String × Document) :
    Option (String × Document) :=
  m.1.bind fun name => if names.contains name then some (name, m.2) else none

/-- The same fields are given, but for the order of the members in their documents. -/
structure Fields.Reordered (f g : Fields) : Prop where
  byName : g.byName = f.byName
  get? : ∀ name, Option.Rel Document.Reordered (f.get? name) (g.get? name)

/-- The same members, under the same names, but for the order of the members in them. -/
def GivenReordered : List (String × Document) → List (String × Document) → Prop :=
  List.Forall₂ fun a b => a.1 = b.1 ∧ a.2.Reordered b.2

namespace Fields

variable {names : List String} {name : String}

/-- The known members, all at once. -/
theorem known_eq_filterMap (ms : List (Option String × Document)) :
    known names ms =
      if ms.all (·.1.isSome) then some (ms.filterMap (knownMember names)) else none := by
  induction ms with
  | nil => rfl
  | cons m ms ih =>
    obtain ⟨name, d⟩ := m
    cases name with
    | none => rfl
    | some name =>
      simp only [known, ih, List.all_cons, Option.isSome_some, Bool.true_and]
      by_cases hall : ms.all (·.1.isSome) = true
      · by_cases hname : names.contains name = true <;>
          simp only [hall, hname, if_true, if_false, Option.map_some, List.filterMap_cons,
            knownMember, Option.bind_some, Bool.false_eq_true]
      · simp only [hall, if_false, Option.map_none, Bool.false_eq_true]

theorem known_perm {ms ns : List (Option String × Document)} (h : ms.Perm ns) :
    Option.Rel List.Perm (known names ms) (known names ns) := by
  rw [known_eq_filterMap, known_eq_filterMap, h.all_eq]
  split
  · exact .some (h.filterMap _)
  · exact .none

theorem known_reordered : ∀ {ms ns : List (Option String × Document)}, MembersReordered ms ns →
    Option.Rel GivenReordered (known names ms) (known names ns)
  | [], _, rfl => .some .nil
  | (none, _) :: _, _, ⟨_, _, rfl, _, _⟩ => .none
  | (some name, _) :: ms, _, ⟨_, ns, rfl, hd, hms⟩ => by
    have hknown : Option.Rel GivenReordered (known names ms) (known names ns) :=
      known_reordered hms
    simp only [known]
    generalize known names ms = g, known names ns = g' at *
    cases hknown with
    | none => exact .none
    | some hg =>
      refine .some ?_
      split
      · exact .cons ⟨rfl, hd⟩ hg
      · exact hg

theorem distinct_iff : distinct names = true ↔ names.Nodup := by
  induction names with
  | nil => simp [distinct]
  | cons name names ih => simp [distinct, ih]

/-- A name that is given once is looked up alike in any order. -/
theorem lookup_perm {given given' : List (String × Document)} (hd : (given.map (·.1)).Nodup)
    (h : given.Perm given') (name : String) : given'.lookup name = given.lookup name := by
  induction h with
  | nil => rfl
  | cons m _ ih =>
    rw [List.lookup_cons, List.lookup_cons, ih (List.nodup_cons.1 hd).2]
  | swap m n given =>
    obtain ⟨m, d⟩ := m
    obtain ⟨n, e⟩ := n
    -- the two names differ, so at most one of them is the name looked up
    have hne : n ≠ m := by
      rintro rfl
      simp at hd
    simp only [List.lookup_cons]
    by_cases hn : name = n
    · have hm : (name == m) = false := by simpa [hn] using hne
      rw [hm]
    · have hn' : (name == n) = false := by simpa using hn
      rw [hn']
  | trans h₁ _ ih₁ ih₂ =>
    have hd' := (h₁.map (·.1)).nodup_iff.1 hd
    rw [ih₂ hd', ih₁ hd]

theorem lookup_reordered {given given' : List (String × Document)}
    (h : GivenReordered given given') (name : String) :
    Option.Rel Document.Reordered (given.lookup name) (given'.lookup name) := by
  induction h with
  | nil => exact .none
  | @cons a b _ _ hab _ ih =>
    obtain ⟨hname, hd⟩ := hab
    rw [List.lookup_cons, List.lookup_cons, hname]
    split
    · exact .some hd
    · exact ih

theorem names_reordered {given given' : List (String × Document)}
    (h : GivenReordered given given') : given'.map (·.1) = given.map (·.1) := by
  induction h with
  | nil => rfl
  | cons hab _ ih => simp only [List.map_cons, hab.1, ih]

/-- By place, the items keep their names. -/
theorem zip_reordered : ∀ {names : List String} {ds es : List Document}, ItemsReordered ds es →
    GivenReordered (names.zip ds) (names.zip es)
  | [], _, _, _ => .nil
  | _ :: _, [], _, rfl => .nil
  | _ :: _, _ :: _, _, ⟨_, _, rfl, hd, hds⟩ => .cons ⟨rfl, hd⟩ (zip_reordered hds)

theorem length_itemsReordered : ∀ {ds es : List Document}, ItemsReordered ds es →
    es.length = ds.length
  | [], _, rfl => rfl
  | _ :: _, _, ⟨_, _, rfl, _, hds⟩ => congrArg (· + 1) (length_itemsReordered hds)

/-- **The same fields are given in whatever order the members stand.** -/
theorem reordered_read? {d e : Document} (h : d.Reordered e) :
    Option.Rel Fields.Reordered (read? names d) (read? names e) := by
  cases d with
  | array items =>
    obtain ⟨items', rfl, hitems⟩ := h
    simp only [read?, ofItems?, length_itemsReordered hitems]
    split
    · exact .some ⟨rfl, lookup_reordered (zip_reordered hitems)⟩
    · exact .none
  | object members =>
    obtain ⟨same, members', rfl, hp, hsame⟩ := h
    have hknown : Option.Rel GivenReordered (known names members) (known names same) :=
      known_reordered hsame
    have hperm : Option.Rel List.Perm (known names same) (known names members') := known_perm hp
    simp only [read?, ofMembers?]
    generalize known names members = g, known names same = g₁, known names members' = g' at *
    cases hknown with
    | none =>
      cases hperm
      exact .none
    | @some g g₁ hg =>
      cases hperm with
      | @some _ g' hg' =>
      have hnames := names_reordered hg
      have hiff : distinct (g'.map (·.1)) = true ↔ distinct (g₁.map (·.1)) = true := by
        rw [distinct_iff, distinct_iff, (hg'.map (·.1)).nodup_iff]
      simp only [← hnames]
      by_cases hd : distinct (g₁.map (·.1)) = true
      · rw [if_pos hd, if_pos (hiff.2 hd)]
        refine .some ⟨rfl, fun name => ?_⟩
        simp only [get?, lookup_perm (distinct_iff.1 hd) hg']
        exact lookup_reordered hg name
      · rw [if_neg hd, if_neg (mt hiff.1 hd)]
        exact .none
  | null | bool | number | string =>
    cases h
    exact .none

end Fields

/-! ## Readers -/

/-- The order of members makes no difference to the reader. -/
def Steady {α : Type} (read : Document → Option α) : Prop :=
  ∀ d e, d.Reordered e → read e = read d

namespace Steady

variable {α β : Type} {read : Document → Option α}

/-- A reader of plain values reads neither arrays nor objects. -/
theorem plain (harray : ∀ items, read (.array items) = none)
    (hobject : ∀ members, read (.object members) = none) : Steady read := by
  intro d e h
  cases d with
  | array items =>
    obtain ⟨items', rfl, -⟩ := h
    rw [harray, harray]
  | object members =>
    obtain ⟨_, members', rfl, -, -⟩ := h
    rw [hobject, hobject]
  | null | bool | number | string => rw [h]

theorem bind (h : Steady read) (f : α → Option β) : Steady fun d => (read d).bind f := by
  intro d e hde
  simp only [h d e hde]

theorem map (h : Steady read) (f : α → β) : Steady fun d => (read d).map f := by
  intro d e hde
  simp only [h d e hde]

theorem asString : Steady asString :=
  plain (fun _ => rfl) (fun _ => rfl)

theorem asBool : Steady asBool :=
  plain (fun _ => rfl) (fun _ => rfl)

theorem asInt64 : Steady asInt64 :=
  plain (fun _ => rfl) (fun _ => rfl)

theorem asOption (h : Steady read) : Steady (asOption read) := by
  intro d e hde
  have hread := h d e hde
  cases d with
  | array items =>
    obtain ⟨items', rfl, -⟩ := hde
    exact congrArg (Option.map some) hread
  | object members =>
    obtain ⟨_, members', rfl, -, -⟩ := hde
    exact congrArg (Option.map some) hread
  | null | bool | number | string => rw [hde]

theorem asItems (h : Steady read) : ∀ {ds es : List Document}, ItemsReordered ds es →
    Json.asItems read es = Json.asItems read ds
  | [], _, rfl => rfl
  | d :: _, _, ⟨e, _, rfl, hd, hds⟩ => by
    simp only [Json.asItems, h d e hd, asItems h hds]

theorem asList (h : Steady read) : Steady (asList read) := by
  intro d e hde
  cases d with
  | array items =>
    obtain ⟨items', rfl, hitems⟩ := hde
    exact h.asItems hitems
  | object members =>
    obtain ⟨_, members', rfl, -, -⟩ := hde
    rfl
  | null | bool | number | string => rw [hde]

theorem isUnit_reordered (source : Source) {d e : Document} (h : d.Reordered e) :
    isUnit source e = isUnit source d := by
  cases d with
  | array items =>
    obtain ⟨items', rfl, -⟩ := h
    cases source <;> rfl
  | object members =>
    obtain ⟨same, members', rfl, hp, hsame⟩ := h
    cases members with
    | nil =>
      cases hsame
      rw [hp.nil_eq]
    | cons m ms =>
      obtain ⟨_, _, rfl, -, -⟩ := hsame
      cases members' with
      | nil => exact absurd hp.length_eq (by simp)
      | cons => cases source <;> rfl
  | null | bool | number | string => rw [h]

theorem readName_reordered (source : Source) : Steady (readName source) := by
  intro d e h
  cases d with
  | array items =>
    obtain ⟨items', rfl, -⟩ := h
    rfl
  | object members =>
    obtain ⟨same, members', rfl, hp, hsame⟩ := h
    -- only an object with a single member names anything
    rcases members with _ | ⟨⟨name, d⟩, _ | ⟨_, _⟩⟩
    · cases hsame
      rw [hp.nil_eq]
    · obtain ⟨e, _, rfl, hd, rfl⟩ := hsame
      rw [← List.singleton_perm.1 hp]
      simp only [readName, isUnit_reordered source hd]
    · obtain ⟨_, _, rfl, -, _, _, rfl, -, -⟩ := hsame
      rcases members' with _ | ⟨_, _ | ⟨_, _⟩⟩
      · exact absurd hp.length_eq (by simp)
      · exact absurd hp.length_eq (by simp)
      · rfl
  | null | bool | number | string => rw [h]

theorem choice [Choice α] (source : Source) : Steady (Choice.read (α := α) source) :=
  (readName_reordered source).bind _

/-- **A record is read alike in whatever order its fields are given**, if what it makes of a field
does not depend on the order either. -/
theorem record {names : List String} {ofFields? : Fields → Option α}
    (h : ∀ f g, f.Reordered g → ofFields? g = ofFields? f) :
    Steady fun d => Fields.read? names d >>= ofFields? := by
  intro d e hde
  have hf : Option.Rel Fields.Reordered (Fields.read? names d) (Fields.read? names e) :=
    Fields.reordered_read? hde
  simp only
  generalize Fields.read? names d = f, Fields.read? names e = g at *
  cases hf with
  | none => rfl
  | some hfg => exact h _ _ hfg

end Steady

namespace Fields.Reordered

variable {α : Type} {read : Document → Option α} {f g : Fields}

theorem required (h : f.Reordered g) (hr : Steady read) (name : String) :
    g.required name read = f.required name read := by
  have hget := h.get? name
  simp only [Fields.required]
  generalize f.get? name = d, g.get? name = e at *
  cases hget with
  | none => rfl
  | some hde => exact hr _ _ hde

theorem defaulted (h : f.Reordered g) (hr : Steady read) (name : String) (default : α) :
    g.defaulted name read default = f.defaulted name read default := by
  have hget := h.get? name
  simp only [Fields.defaulted]
  generalize f.get? name = d, g.get? name = e at *
  cases hget with
  | none => rfl
  | some hde => exact hr _ _ hde

theorem optional (h : f.Reordered g) (hr : Steady read) (name : String) :
    g.optional name read = f.optional name read :=
  h.defaulted hr.asOption name none

end Fields.Reordered

end Handoff.Json
