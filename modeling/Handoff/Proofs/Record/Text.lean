import Handoff.Fixture
import Handoff.Proofs.Context.Wire
import Handoff.Proofs.Json.Order
/-!
# Records in text

What a store is filled from is written down record by record. Nothing of it gets lost, not even the
difference between a value that is absent and the default that stands for it, and the same records
are read when the references that are ready are added to them.

* `read_document` of each kind of record: a record is read from its document, directly or out of a
  buffer.
* `steady_read` of each kind: in whatever order its members stand.
* `admissible_document` of each kind: it may stand in any list that is not nested too deep.
* `Snapshot.survives`: **a snapshot is read from its text, and from a fixture, as it was.**
-/

namespace Handoff

open Json

theorem Id.steady_read {kind : IdKind} : Steady (Id.read : Document → Option (Id kind)) :=
  Steady.asInt64.map _

namespace Instant

theorem steady_read : Steady Instant.read :=
  Steady.asString.bind _

@[simp] theorem plain_option_document (t : Option Instant) :
    (Document.option Instant.document t).Plain :=
  Document.plain_option (fun t => (Document.plain_text t.text : t.document.Plain)) t

end Instant

/-! ## Tenants, users and what tasks draw on -/

namespace Tenant

@[simp] theorem read_document (t : Tenant) : Tenant.read t.document = some t :=
  Fields.read_record (by decide) (List.Sublist.refl _) (by simp [List.lookup_cons])

theorem steady_read : Steady Tenant.read :=
  Steady.record fun f g h => by
    simp only [h.required Id.steady_read, h.required Steady.asString, h.defaulted Steady.asString]

theorem admissible_document {levels : Nat} (h : levels < Document.maxDepth) (t : Tenant) :
    t.document.admissible levels = true :=
  Document.admissible_record h (Document.admissible_members h (by simp))

end Tenant

namespace User

@[simp] theorem read_document (u : User) : User.read u.document = some u :=
  Fields.read_record (by decide) (List.Sublist.refl _) (by simp [List.lookup_cons])

theorem steady_read : Steady User.read :=
  Steady.record fun f g h => by
    simp only [h.required Id.steady_read, h.required Steady.asString, h.optional Steady.asString]

theorem admissible_document {levels : Nat} (h : levels < Document.maxDepth) (u : User) :
    u.document.admissible levels = true :=
  Document.admissible_record h (Document.admissible_members h (by simp))

end User

namespace DataSource

@[simp] theorem read_document (source : Source) (s : DataSource) :
    DataSource.read source s.document = some s :=
  Fields.read_record (by decide) (List.Sublist.refl _) (by simp [List.lookup_cons])

theorem steady_read (source : Source) : Steady (DataSource.read source) :=
  Steady.record fun f g h => by
    simp only [h.required Id.steady_read, h.required Steady.asString,
      h.required (Steady.choice source)]

theorem admissible_document {levels : Nat} (h : levels < Document.maxDepth) (s : DataSource) :
    s.document.admissible levels = true :=
  Document.admissible_record h (Document.admissible_members h (by simp))

end DataSource

namespace Resource

@[simp] theorem read_document (r : Resource) : Resource.read r.document = some r :=
  Fields.read_record (by decide) (List.Sublist.refl _) (by simp [List.lookup_cons])

theorem steady_read : Steady Resource.read :=
  Steady.record fun f g h => by
    simp only [h.required Id.steady_read, h.required Steady.asString, h.defaulted Steady.asBool]

theorem admissible_document {levels : Nat} (h : levels < Document.maxDepth) (r : Resource) :
    r.document.admissible levels = true :=
  Document.admissible_record h (Document.admissible_members h (by simp))

end Resource

namespace Udf

theorem steady_read (source : Source) : Steady (Udf.read source) :=
  Steady.record fun f g h => by
    simp only [h.required Id.steady_read, h.required Steady.asString,
      h.required (Steady.choice source), h.optional Steady.asString]

end Udf

/-! ## Definitions, processes and tasks -/

namespace Definition

@[simp] theorem read_document (d : Definition) : Definition.read d.document = some d :=
  Fields.read_record (by decide) (List.Sublist.refl _) (by simp [List.lookup_cons])

theorem steady_read : Steady Definition.read :=
  Steady.record fun f g h => by
    simp only [h.required Id.steady_read, h.defaulted Steady.asString, h.optional Steady.asString]

theorem admissible_document {levels : Nat} (h : levels < Document.maxDepth) (d : Definition) :
    d.document.admissible levels = true :=
  Document.admissible_record h (Document.admissible_members h (by simp))

end Definition

namespace ProcessRun

@[simp] theorem read_document (source : Source) (p : ProcessRun) :
    ProcessRun.read source p.document = some p :=
  Fields.read_record (by decide) (List.Sublist.refl _) (by simp [List.lookup_cons])

theorem steady_read (source : Source) : Steady (ProcessRun.read source) :=
  Steady.record fun f g h => by
    simp only [h.required Id.steady_read, h.defaulted Id.steady_read,
      h.defaulted (Steady.choice source), h.optional Steady.asString,
      h.optional Instant.steady_read]

theorem admissible_document {levels : Nat} (h : levels < Document.maxDepth) (p : ProcessRun) :
    p.document.admissible levels = true :=
  Document.admissible_record h (Document.admissible_members h (by simp))

end ProcessRun

namespace Task

variable {α : Type} {read : Document → Option α} {write : α → Document} {name : String}

theorem attached_sublist (a : Option α) : ((attached name write a).map (·.1)).Sublist [name] := by
  cases a with
  | none => exact List.nil_sublist _
  | some a => exact List.Sublist.refl _

theorem lookup_attached_self (a : Option α) :
    (attached name write a).lookup name = a.map write := by
  cases a with
  | none => rfl
  | some a => simp [attached]

theorem lookup_attached_of_ne {other : String} (h : other ≠ name) (a : Option α) :
    (attached name write a).lookup other = none := by
  cases a with
  | none => rfl
  | some a =>
    have hb : (other == name) = false := by simpa using h
    simp [attached, List.lookup_cons, hb]

/-- A member that is left out when it is absent is read as what there was. -/
theorem asOption_attached (name : String) (h : ∀ a, read (write a) = some a)
    (hnull : ∀ a, write a ≠ .null) (a : Option α) :
    ((attached name write a).lookup name).elim (some none) (asOption read) = some a := by
  rw [lookup_attached_self]
  cases a with
  | none => rfl
  | some a => exact asOption_option h hnull (some a)

@[simp] theorem read_document (source : Source) (t : Task) :
    Task.read source t.document = some t := by
  refine Fields.read_record (by decide) ?_ ?_
  · simp only [List.map_append]
    exact ((List.Sublist.refl _).append (attached_sublist _)).append (attached_sublist _)
  · have hprocess := asOption_attached "processInstance"
      (ProcessRun.read_document source) (fun _ => by rintro ⟨⟩) t.process
    have hdefinition := asOption_attached "processDefinition"
      Definition.read_document (fun _ => by rintro ⟨⟩) t.definition
    simp [List.lookup_cons, List.lookup_append, lookup_attached_of_ne, hprocess, hdefinition]

theorem steady_read (source : Source) : Steady (Task.read source) :=
  Steady.record fun f g h => by
    simp only [h.required Id.steady_read, h.required Steady.asString,
      h.required (Steady.choice source), h.defaulted (Steady.choice source),
      h.optional Steady.asString, h.optional Instant.steady_read,
      h.optional (ProcessRun.steady_read source), h.optional Definition.steady_read]

theorem admissible_attached {levels : Nat} (h : ∀ a, (write a).admissible levels = true)
    (a : Option α) : ∀ m ∈ attached name write a, m.2.admissible levels = true := by
  intro m hm
  cases a with
  | none => cases hm
  | some a =>
    cases List.mem_singleton.1 hm
    exact h a

theorem admissible_document {levels : Nat} (h : levels + 1 < Document.maxDepth) (t : Task) :
    t.document.admissible levels = true := by
  have hprocess := fun p : ProcessRun => p.admissible_document h
  have hdefinition := fun d : Definition => d.admissible_document h
  refine Document.admissible_record (by omega) (List.forall_mem_append.2 ⟨?_, ?_⟩)
  · refine List.forall_mem_append.2 ⟨?_, admissible_attached hprocess t.process⟩
    exact Document.admissible_members (by omega) (by simp)
  · exact admissible_attached hdefinition t.definition

end Task

/-! ## Snapshots and fixtures -/

namespace Snapshot

/-- A snapshot is read from its members, whatever else is given after them. -/
theorem ofFields?_members (source : Source) (s : Snapshot) (rest : List (String × Document)) :
    ofFields? source ⟨true, s.members ++ rest⟩ = some s := by
  have htasks := asList_list (Task.read_document source) s.tasks
  have hprocesses := asList_list (ProcessRun.read_document source) s.processes
  have hdefinitions := asList_list Definition.read_document s.definitions
  have htenants := asList_list Tenant.read_document s.tenants
  have husers := asList_list User.read_document s.users
  have hdataSources := asList_list (DataSource.read_document source) s.dataSources
  have hudfs := asList_list (Udf.read_document source) s.udfs
  have hresources := asList_list Resource.read_document s.resources
  simp [ofFields?, members, List.lookup_cons, *]

/-- A snapshot is read from its document. -/
theorem read_document (source : Source) (s : Snapshot) : read source s.document = some s :=
  Fields.read_record (by decide) (List.Sublist.refl _) (by
    simpa using ofFields?_members source s [])

theorem ofFields?_reordered (source : Source) {f g : Fields} (h : f.Reordered g) :
    ofFields? source g = ofFields? source f := by
  simp only [ofFields?, h.defaulted (Task.steady_read source).asList,
    h.defaulted (ProcessRun.steady_read source).asList, h.defaulted Definition.steady_read.asList,
    h.defaulted Tenant.steady_read.asList, h.defaulted User.steady_read.asList,
    h.defaulted (DataSource.steady_read source).asList, h.defaulted (Udf.steady_read source).asList,
    h.defaulted Resource.steady_read.asList]

theorem steady_read (source : Source) : Steady (Snapshot.read source) :=
  Steady.record fun _ _ h => ofFields?_reordered source h

end Snapshot

namespace Fixture

/-- A fixture may be gathered whole. -/
theorem admissible_document (f : Fixture) : f.document.admissible 0 = true := by
  refine Document.admissible_record (by decide) ?_
  intro m hm
  simp only [Snapshot.members, List.cons_append, List.nil_append, List.mem_cons, List.not_mem_nil,
    or_false] at hm
  rcases hm with rfl | rfl | rfl | rfl | rfl | rfl | rfl | rfl | rfl
  · exact Document.admissible_list (by decide) fun t _ => t.admissible_document (by decide)
  · exact Document.admissible_list (by decide) fun p _ => p.admissible_document (by decide)
  · exact Document.admissible_list (by decide) fun d _ => d.admissible_document (by decide)
  · exact Document.admissible_list (by decide) fun t _ => t.admissible_document (by decide)
  · exact Document.admissible_list (by decide) fun u _ => u.admissible_document (by decide)
  · exact Document.admissible_list (by decide) fun s _ => s.admissible_document (by decide)
  · exact Document.admissible_list (by decide) fun u _ => u.admissible_document (by decide)
  · exact Document.admissible_list (by decide) fun r _ => r.admissible_document (by decide)
  · exact Document.admissible_list (by decide) fun r _ => Document.admissible_text (by decide) r

/-- A fixture from the fields given. -/
def ofFields? (f : Fields) : Option Fixture := do
  return {
    records := ← Snapshot.ofFields? .buffered f
    ready := ← f.defaulted "ready" (asList asString) [] }

/-- An object that may be gathered whole is read as any record is. -/
theorem read_object (members : List (Option String × Document)) :
    read (.object members) =
      if (Document.object members).admissible 0 then
        Fields.read? (Snapshot.fieldNames ++ ["ready"]) (.object members) >>= ofFields?
      else none := by
  by_cases h : (Document.object members).admissible 0 = true
  · simp only [read, if_pos h]
    rfl
  · simp only [read, if_neg h]
    rfl

/-- A fixture is read from its document. -/
theorem read_document (f : Fixture) : read f.document = some f := by
  have hready := asList_list asString_text f.ready
  have hrecords := Snapshot.ofFields?_members .buffered f.records [("ready", .list .text f.ready)]
  refine ((read_object _).trans (if_pos f.admissible_document)).trans ?_
  refine Fields.read_record (by decide) (List.Sublist.refl _) ?_
  simp only [ofFields?, hrecords, Fields.defaulted_byName]
  simp [Snapshot.members, List.lookup_cons, hready]

/-- A fixture is read from its text. -/
theorem read?_print (f : Fixture) : read? f.document.print = some f := by
  unfold read?
  rw [Document.read?_print, some_bind, f.read_document]

theorem steady_read : Steady Fixture.read := by
  have hfields : Steady fun d =>
      Fields.read? (Snapshot.fieldNames ++ ["ready"]) d >>= ofFields? :=
    Steady.record fun f g h => by
      simp only [ofFields?, Snapshot.ofFields?_reordered .buffered h,
        h.defaulted Steady.asString.asList]
  intro d e h
  cases d with
  | object members =>
    have hadmissible := Document.admissible_reordered h 0
    have hread := hfields _ _ h
    obtain ⟨_, members', rfl, -, -⟩ := h
    rw [read_object, read_object, hadmissible]
    exact congrArg (fun f => if (Document.object members).admissible 0 then f else none) hread
  | array items =>
    obtain ⟨items', rfl, -⟩ := h
    rfl
  | null | bool | number | string => rw [h]

end Fixture

/-- **A snapshot is read from its text as it was, and a fixture made of its object and the
references that are ready is read as that snapshot and those references**, in whatever order the
members of the objects are written. -/
theorem Snapshot.survives (s : Snapshot) :
    (Document.read? s.document.print >>= Snapshot.read .direct) = some s ∧
    (∀ ready, Fixture.read? (Fixture.document ⟨s, ready⟩).print = some ⟨s, ready⟩) ∧
    (∀ d, s.document.Reordered d → (Document.read? d.print >>= Snapshot.read .direct) = some s) ∧
    (∀ ready d, (Fixture.document ⟨s, ready⟩).Reordered d →
      Fixture.read? d.print = some ⟨s, ready⟩) := by
  have hsnapshot : ∀ d, s.document.Reordered d →
      (Document.read? d.print >>= Snapshot.read .direct) = some s := by
    intro d hd
    rw [Document.read?_print, some_bind, Snapshot.steady_read .direct _ _ hd, s.read_document]
  have hfixture : ∀ ready d, (Fixture.document ⟨s, ready⟩).Reordered d →
      Fixture.read? d.print = some ⟨s, ready⟩ := by
    intro ready d hd
    unfold Fixture.read?
    rw [Document.read?_print, some_bind, Fixture.steady_read _ _ hd, Fixture.read_document]
  exact ⟨hsnapshot _ (Document.reordered_refl _),
    fun ready => hfixture ready _ (Document.reordered_refl _), hsnapshot, hfixture⟩

/-- A task with its process but no definition attached, and a tenant with an empty queue, are read
from a snapshot and from a fixture whose members stand in the reverse order. -/
theorem Snapshot.survives_reversed :
    let run : ProcessRun := ⟨⟨1⟩, ⟨1⟩, ProcessRun.noTenant, ⟨1⟩, .low, some "", none, none⟩
    let task : Task := {
      id := ⟨7⟩, name := "count", typeTag := "SHELL", nodeText := "", processId := ⟨1⟩,
      definitionId := ⟨1⟩, status := .submittedSuccess, priority := .standard, host := none,
      startTime := none, submitTime := some Instant.epoch, workerGroup := some "",
      logPath := none, process := some run, definition := none }
    let s : Snapshot := { Snapshot.empty with tasks := [task], tenants := [⟨⟨4⟩, "ops", ""⟩] }
    let f : Fixture := ⟨s, ["2_1_2_7_0_default"]⟩
    let d := Document.record (s.members ++ [("ready", Document.list .text f.ready)]).reverse
    let e := Document.record s.members.reverse
    (f.document.Reordered d ∧ Fixture.read? d.print = some f) ∧
    (s.document.Reordered e ∧ (Document.read? e.print >>= Snapshot.read .direct) = some s) := by
  intro run task s f d e
  have hd : f.document.Reordered d := Document.reordered_record (List.reverse_perm _).symm
  have he : s.document.Reordered e := Document.reordered_record (List.reverse_perm _).symm
  obtain ⟨-, -, hsnapshot, hfixture⟩ := s.survives
  exact ⟨⟨hd, hfixture f.ready d hd⟩, he, hsnapshot e he⟩

end Handoff
