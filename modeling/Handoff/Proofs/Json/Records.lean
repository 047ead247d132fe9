import Handoff.Ident
import Handoff.Proofs.Json.Documents
import Handoff.Record.Kinds
/-!
# Records in JSON

What is written for a value is read as that value: plain values, ids, lists, absent values, named
alternatives, and the fields of a record.

* `asInt64_int`, `asInt32_int`, `asUInt64_int`, `asList_list`, `asOption_option`: plain values.
* `LawfulChoice`: the alternatives of a type are told apart by their names; `Choice.read_document`:
  so each is read from its name.
* `Fields.read?_record`: **a record is read as its fields, if each is one of the record's own and given
  once.**
* `Document.admissible_record`, `Document.admissible_list`: what is built from parts that may stand
  where they do may stand there itself; `Document.Plain`: parts that may stand anywhere.
-/

namespace Handoff.Json

/-! ## Plain values -/

@[simp] theorem asString_text (s : String) : asString (.text s) = some s :=
  rfl

@[simp] theorem asBool_bool (b : Bool) : asBool (.bool b) = some b :=
  rfl

/-- A whole number of a range within 64 bits is read from its numeral. -/
theorem asInt_int {lowest highest i : Int} (hl : lowest ≤ i) (hh : i ≤ highest)
    (hlowest : -9223372036854775808 ≤ lowest) (hhighest : highest < 18446744073709551616) :
    asInt lowest highest (.int i) = some i := by
  unfold asInt Document.int
  simp only [Numeral.toInt?_ofInt (show -9223372036854775808 ≤ i by omega) (by omega)]
  rw [if_pos ⟨hl, hh⟩]

@[simp] theorem asInt64_int (v : Int64) : asInt64 (.int v.toInt) = some v := by
  have hl : -9223372036854775808 ≤ v.toInt := Int64.minValue_le_toInt v
  have hh : v.toInt ≤ 9223372036854775807 := Int64.toInt_le v
  unfold asInt64
  rw [asInt_int hl hh (by decide) (by decide), Option.map_some, Int64.ofInt_toInt]

@[simp] theorem asInt32_int (v : Int32) : asInt32 (.int v.toInt) = some v := by
  have hl : -2147483648 ≤ v.toInt := Int32.minValue_le_toInt v
  have hh : v.toInt ≤ 2147483647 := Int32.toInt_le v
  unfold asInt32
  rw [asInt_int hl hh (by decide) (by decide), Option.map_some, Int32.ofInt_toInt]

@[simp] theorem asUInt64_int (v : UInt64) : asUInt64 (.int v.toNat) = some v := by
  have hlt : v.toNat < 18446744073709551616 := v.toNat_lt
  unfold asUInt64
  rw [asInt_int (by omega) (by omega) (by decide) (by decide), Option.map_some, Int.toNat_natCast,
    UInt64.ofNat_toNat]

variable {α : Type} {read : Document → Option α} {write : α → Document}

/-- An absent value is told apart from all that are written in its place. -/
theorem asOption_option (h : ∀ a, read (write a) = some a) (hnull : ∀ a, write a ≠ .null)
    (a : Option α) : asOption read (.option write a) = some a := by
  cases a with
  | none => rfl
  | some a =>
    unfold asOption Document.option
    split
    · rename_i heq
      exact absurd heq (hnull a)
    · rw [h]
      rfl

theorem asList_list (h : ∀ a, read (write a) = some a) (as : List α) :
    asList read (.list write as) = some as := by
  show asItems read (as.map write) = some as
  induction as with
  | nil => rfl
  | cons a as ih => simp only [List.map_cons, asItems, h, ih]

@[simp] theorem asOption_text (s : Option String) :
    asOption asString (.option .text s) = some s :=
  asOption_option asString_text (fun _ => by rintro ⟨⟩) s

/-! ## Named alternatives -/

/-- The alternatives of a type are told apart by their names. -/
class LawfulChoice (α : Type) [Choice α] : Prop where
  ofName?_name (a : α) : Choice.ofName? (Choice.name a) = some a

instance : LawfulChoice TaskType := ⟨fun a => by cases a <;> decide⟩

instance : LawfulChoice UdfEngine := ⟨fun a => by cases a <;> decide⟩

instance : LawfulChoice ExecutorType := ⟨fun a => by cases a <;> decide⟩

instance : LawfulChoice CommandType := ⟨fun a => by cases a; decide⟩

instance : LawfulChoice TaskStatus := ⟨fun a => by cases a <;> decide⟩

instance : LawfulChoice Priority := ⟨fun a => by cases a <;> decide⟩

instance : LawfulChoice DbType := ⟨fun a => by cases a <;> decide⟩

/-- An alternative is read from its name, directly or out of a buffer. -/
@[simp] theorem Choice.read_document [Choice α] [LawfulChoice α] (source : Source) (a : α) :
    Choice.read source (Choice.document a) = some a :=
  LawfulChoice.ofName?_name a

/-! ## Fields -/

/-- Reading goes on with the field just read; as it is stated for the notation, records are read
field by field from the first one. -/
theorem some_bind {α β : Type} (a : α) (f : α → Option β) : (some a >>= f) = f a :=
  rfl

namespace Fields

theorem known_eq {names : List String} {members : List (String × Document)}
    (h : ∀ m ∈ members, m.1 ∈ names) :
    known names (members.map fun m => (some m.1, m.2)) = some members := by
  induction members with
  | nil => rfl
  | cons m ms ih =>
    have hm : names.contains m.1 = true := List.contains_iff_mem.2 (h m (by simp))
    rw [List.map_cons, known, ih fun k hk => h k (by simp [hk]), Option.map_some, if_pos hm]

theorem distinct_eq {names : List String} (h : names.Nodup) : distinct names = true := by
  induction names with
  | nil => rfl
  | cons name names ih =>
    obtain ⟨hname, hnames⟩ := List.nodup_cons.1 h
    simp [distinct, ih hnames, hname]

/-- **A record is read as its fields, if each is one of the record's own and given once.** -/
theorem read?_record {names : List String} {members : List (String × Document)}
    (hd : names.Nodup) (h : (members.map (·.1)).Sublist names) :
    read? names (.record members) = some ⟨true, members⟩ := by
  have hknown : ∀ m ∈ members, m.1 ∈ names := fun m hm => h.subset (List.mem_map_of_mem hm)
  unfold read? Document.record ofMembers?
  simp only [known_eq hknown]
  rw [if_pos (distinct_eq (hd.sublist h))]

/-- A record is read as what is made of its fields. -/
theorem read_record {names : List String} {members : List (String × Document)}
    {ofFields? : Fields → Option α} {a : α} (hd : names.Nodup)
    (h : (members.map (·.1)).Sublist names) (ha : ofFields? ⟨true, members⟩ = some a) :
    (read? names (.record members) >>= ofFields?) = some a := by
  rw [read?_record hd h, some_bind, ha]

variable (members : List (String × Document)) (name : String) (read : Document → Option α)

@[simp] theorem required_byName :
    (Fields.mk true members).required name read = (members.lookup name).bind read := by
  cases h : members.lookup name <;> simp [required, get?, h]

@[simp] theorem optional_byName :
    (Fields.mk true members).optional name read =
      (members.lookup name).elim (some none) (asOption read) := by
  cases h : members.lookup name <;> simp [optional, defaulted, get?, h]

@[simp] theorem defaulted_byName (default : α) :
    (Fields.mk true members).defaulted name read default =
      (members.lookup name).elim (some default) read := by
  cases h : members.lookup name <;> simp [defaulted, get?, h]

@[simp] theorem nullable_byName :
    (Fields.mk true members).nullable name read = (Fields.mk true members).optional name read :=
  rfl

end Fields

/-! ## Depth and soundness -/

namespace Document

variable {levels : Nat}

theorem admissible_text (h : levels ≤ maxDepth) (s : String) : (text s).admissible levels = true := by
  simp [admissible, text, sound, depth, h]

theorem admissible_int (h : levels ≤ maxDepth) {i : Int} (hi : i.natAbs < Numeral.unsignedLimit) :
    (int i).admissible levels = true := by
  simp [admissible, int, sound, depth, h, Numeral.inRange_ofInt hi]

theorem admissible_option (h : levels ≤ maxDepth) {a : Option α}
    (ha : ∀ x ∈ a, (write x).admissible levels = true) :
    (option write a).admissible levels = true := by
  cases a with
  | none => simp [admissible, option, sound, depth, h]
  | some x => exact ha x rfl

theorem admissible_list (h : levels < maxDepth) {as : List α}
    (has : ∀ a ∈ as, (write a).admissible (levels + 1) = true) :
    (list write as).admissible levels = true := by
  have hitems : itemsSound (as.map write) = true ∧
      itemsDepth (as.map write) + (levels + 1) ≤ maxDepth := by
    induction as with
    | nil =>
      refine ⟨rfl, ?_⟩
      show 0 + (levels + 1) ≤ maxDepth
      omega
    | cons a as ih =>
      have ha := has a (by simp)
      obtain ⟨hsound, hdepth⟩ := ih fun b hb => has b (by simp [hb])
      simp only [admissible, Bool.and_eq_true, decide_eq_true_eq] at ha
      simp only [List.map_cons, itemsSound, itemsDepth, hsound, ha.1, Bool.and_true, true_and]
      omega
  simp only [admissible, list, sound, depth, hitems.1, Bool.true_and, decide_eq_true_eq]
  omega

theorem admissible_record (h : levels < maxDepth) {members : List (String × Document)}
    (hm : ∀ m ∈ members, m.2.admissible (levels + 1) = true) :
    (record members).admissible levels = true := by
  have hmembers : membersSound (members.map fun m => (some m.1, m.2)) = true ∧
      membersDepth (members.map fun m => (some m.1, m.2)) + (levels + 1) ≤ maxDepth := by
    induction members with
    | nil =>
      refine ⟨rfl, ?_⟩
      show 0 + (levels + 1) ≤ maxDepth
      omega
    | cons m ms ih =>
      have hfirst := hm m (by simp)
      obtain ⟨hsound, hdepth⟩ := ih fun k hk => hm k (by simp [hk])
      simp only [admissible, Bool.and_eq_true, decide_eq_true_eq] at hfirst
      simp only [List.map_cons, membersSound, membersDepth, hsound, hfirst.1, Option.isSome_some,
        Bool.and_true, true_and]
      omega
  simp only [admissible, record, sound, depth, hmembers.1, Bool.true_and, decide_eq_true_eq]
  omega

/-- A value that may stand wherever there is room for a value at all. -/
def Plain (d : Document) : Prop :=
  ∀ levels ≤ maxDepth, d.admissible levels = true

@[simp] theorem plain_text (s : String) : (text s).Plain :=
  fun _ h => admissible_text h s

@[simp] theorem plain_bool (b : Bool) : (bool b).Plain := by
  intro levels h
  simp [admissible, sound, depth, h]

@[simp] theorem plain_choice [Choice α] (a : α) : (Choice.document a).Plain :=
  plain_text _

theorem plain_option (h : ∀ x, (write x).Plain) (a : Option α) : (option write a).Plain :=
  fun _ hlevels => admissible_option hlevels fun x _ => h x _ hlevels

@[simp] theorem plain_option_text (s : Option String) : (option text s).Plain :=
  plain_option plain_text s

/-- Plain values may stand in any record. -/
theorem admissible_members (h : levels ≤ maxDepth) {members : List (String × Document)}
    (hm : ∀ m ∈ members, m.2.Plain) : ∀ m ∈ members, m.2.admissible levels = true :=
  fun m hmem => hm m hmem levels h

end Document

end Handoff.Json

namespace Handoff.Id

open Json

variable {kind : IdKind}

@[simp] theorem read_document (id : Id kind) : read id.document = some id := by
  unfold read document toInt
  rw [asInt64_int]
  rfl

theorem admissible_document {levels : Nat} (h : levels ≤ Document.maxDepth) (id : Id kind) :
    id.document.admissible levels = true := by
  have hl : -9223372036854775808 ≤ id.toInt := Int64.minValue_le_toInt id.value
  have hh : id.toInt ≤ 9223372036854775807 := Int64.toInt_le id.value
  have hlimit : Numeral.unsignedLimit = 18446744073709551616 := rfl
  exact Document.admissible_int h (by omega)

@[simp] theorem plain_document (id : Id kind) : id.document.Plain :=
  fun _ h => id.admissible_document h

end Handoff.Id
