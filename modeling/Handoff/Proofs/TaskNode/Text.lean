import Handoff.Proofs.Json.Values
import Handoff.Proofs.Record.Text
import Handoff.Proofs.Resolution.Isolation
import Handoff.TaskNode
/-!
# Task nodes in text

The node of a task is written with its parameters in it, and read in two layers: its text gives a
value for the parameters, and the value gives the parameters. Neither layer loses anything.

* `LosslessShape`: records that are read from a node as they were written into it;
  `LosslessShape.of_record`: what their fields have to be, so that `ScriptParameters.lossless`,
  `SqlParameters.lossless` and the others need only look at the fields.
* `Value.Inline`: the values that stand for themselves as the parameters of a node.
* `TaskNode.ofText?_print`: **a node is read from its text**, whatever stands in it as parameters.
* `Parameters.Storable`: the parameters that a node can carry.
* `TaskNode.keeps_parameters`: **parameters are read from the text of a node as they were written.**
-/

namespace Handoff

open Json

/-! ## References to resources -/

namespace Id

variable {kind : IdKind}

@[simp] theorem asOption_option_document (id : Option (Id kind)) :
    asOption Id.read (.option Id.document id) = some id :=
  asOption_option Id.read_document (fun _ => by rintro ⟨⟩) id

theorem unrepeated_document (id : Id kind) : id.document.Unrepeated :=
  Document.unrepeated_int _

@[simp] theorem unrepeated_option_document (id : Option (Id kind)) :
    (Document.option Id.document id).Unrepeated :=
  Document.unrepeated_option unrepeated_document id

end Id

namespace ResourceRef

@[simp] theorem read_document (r : ResourceRef) : ResourceRef.read r.document = some r :=
  Fields.read_record (by decide) (List.Sublist.refl _) (by simp [List.lookup_cons])

theorem steady_read : Steady ResourceRef.read :=
  Steady.record fun f g h => by
    simp only [h.optional Id.steady_read, h.optional Steady.asString]

theorem admissible_document {levels : Nat} (h : levels < Document.maxDepth) (r : ResourceRef) :
    r.document.admissible levels = true := by
  have hid : (Document.option Id.document r.id).Plain :=
    Document.plain_option Id.plain_document r.id
  exact Document.admissible_record h (Document.admissible_members h (by simp [hid]))

theorem unrepeated_document (r : ResourceRef) : r.document.Unrepeated :=
  Document.unrepeated_record (show fieldNames.Nodup by decide) (List.Sublist.refl _) (by simp)

@[simp] theorem asOption_option_document (r : Option ResourceRef) :
    asOption ResourceRef.read (.option ResourceRef.document r) = some r :=
  asOption_option read_document (fun _ => by rintro ⟨⟩) r

@[simp] theorem asList_list_document (rs : List ResourceRef) :
    asList ResourceRef.read (.list ResourceRef.document rs) = some rs :=
  asList_list read_document rs

end ResourceRef

/-! ## Records of parameters -/

/-- The value of a field may stand in the parameters of a node, and no name is given twice in it. -/
structure Part (d : Document) : Prop where
  admissible : d.admissible 2 = true
  unrepeated : d.Unrepeated

namespace Part

@[simp] theorem text (s : String) : Part (.text s) :=
  ⟨Document.admissible_text (by decide) s, Document.unrepeated_text s⟩

@[simp] theorem option_text (s : Option String) : Part (.option .text s) :=
  ⟨Document.plain_option_text s 2 (by decide), Document.unrepeated_option_text s⟩

@[simp] theorem id {kind : IdKind} (id : Id kind) : Part id.document :=
  ⟨id.admissible_document (by decide), id.unrepeated_document⟩

@[simp] theorem option_resourceRef (r : Option ResourceRef) :
    Part (.option ResourceRef.document r) :=
  ⟨Document.admissible_option (by decide) fun r _ => r.admissible_document (by decide),
    Document.unrepeated_option ResourceRef.unrepeated_document r⟩

@[simp] theorem resourceRefs (rs : List ResourceRef) : Part (.list ResourceRef.document rs) :=
  ⟨Document.admissible_list (by decide) fun r _ => r.admissible_document (by decide),
    Document.unrepeated_list ResourceRef.unrepeated_document rs⟩

end Part

/-- Values of a type are written as records that may stand in a node, give no name twice, and are
read as they were in whatever order their members stand. -/
structure LosslessShape {α : Type} (read : Document → Option α) (write : α → Document) : Prop where
  object : ∀ a, ∃ members, write a = .object members
  admissible : ∀ a, (write a).admissible 1 = true
  unrepeated : ∀ a, (write a).Unrepeated
  steady : Steady read
  read_write : ∀ a, read (write a) = some a

/-- A record loses nothing if each of its fields is read as it was, in whatever order they stand. -/
theorem LosslessShape.of_record {α : Type} {names : List String}
    {members : α → List (String × Document)} {ofFields? : Fields → Option α} (hd : names.Nodup)
    (hn : ∀ a, ((members a).map (·.1)).Sublist names) (hparts : ∀ a, ∀ m ∈ members a, Part m.2)
    (hsteady : ∀ f g, f.Reordered g → ofFields? g = ofFields? f)
    (hread : ∀ a, ofFields? ⟨true, members a⟩ = some a) :
    LosslessShape (fun d => Fields.read? names d >>= ofFields?)
      (fun a => Document.record (members a)) where
  object _ := ⟨_, rfl⟩
  admissible a := Document.admissible_record (by decide) fun m hm => (hparts a m hm).admissible
  unrepeated a := Document.unrepeated_record hd (hn a) fun m hm => (hparts a m hm).unrepeated
  steady := Steady.record hsteady
  read_write a := Fields.read_record hd (hn a) (hread a)

theorem ScriptParameters.lossless :
    LosslessShape ScriptParameters.read ScriptParameters.document :=
  .of_record (by decide) (fun _ => List.Sublist.refl _) (fun p => by simp)
    (fun f g h => by
      simp only [h.defaulted Steady.asString, h.defaulted ResourceRef.steady_read.asList])
    (fun p => by simp [List.lookup_cons])

theorem SqlParameters.lossless : LosslessShape SqlParameters.read SqlParameters.document :=
  .of_record (by decide) (fun _ => List.Sublist.refl _) (fun p => by simp)
    (fun f g h => by
      simp only [h.required Steady.asString, h.required Id.steady_read,
        h.defaulted Steady.asString, h.optional Steady.asString])
    (fun p => by simp [List.lookup_cons])

theorem ProcedureParameters.lossless :
    LosslessShape ProcedureParameters.read ProcedureParameters.document :=
  .of_record (by decide) (fun _ => List.Sublist.refl _) (fun p => by simp)
    (fun f g h => by
      simp only [h.required Steady.asString, h.required Id.steady_read,
        h.defaulted Steady.asString])
    (fun p => by simp [List.lookup_cons])

theorem TransferParameters.lossless :
    LosslessShape TransferParameters.read TransferParameters.document :=
  .of_record (by decide) (fun _ => List.Sublist.refl _) (fun p => by simp)
    (fun f g h => by simp only [h.required Id.steady_read, h.defaulted Steady.asString])
    (fun p => by simp [List.lookup_cons])

theorem JarParameters.lossless : LosslessShape JarParameters.read JarParameters.document :=
  .of_record (by decide) (fun _ => List.Sublist.refl _) (fun p => by simp)
    (fun f g h => by
      simp only [h.optional ResourceRef.steady_read, h.optional Steady.asString,
        h.defaulted ResourceRef.steady_read.asList])
    (fun p => by simp [List.lookup_cons])

/-! ## Values as parameters -/

/-- The value stands for itself as the parameters of a node: it is not a string, which is read as
the text of a value, and not `null`, which counts as an empty object. -/
def Json.Value.Inline : Value → Prop
  | .null | .string _ => False
  | .bool _ | .number _ | .array _ | .object _ => True

theorem TaskNode.paramsValue?_of_inline {n : TaskNode} (h : n.params.Inline) :
    n.paramsValue? = some n.params := by
  unfold paramsValue?
  cases hparams : n.params with
  | null | string => simp [hparams, Value.Inline] at h
  | bool | number | array | object => rfl

/-- The value of a record stands for itself, and what was written can be read from it. -/
theorem LosslessShape.exists_value {α : Type} {read : Document → Option α} {write : α → Document}
    (h : LosslessShape read write) (a : α) :
    ∃ v, Value.ofNested? 1 (write a) = some v ∧ v.Inline ∧ read v.document = some a := by
  obtain ⟨v, hv, hsame⟩ := Value.exists_ofNested? (h.admissible a) (h.unrepeated a)
  have hread : read v.document = some a := by rw [h.steady _ _ hsame, h.read_write]
  have hinline : v.Inline := by
    obtain ⟨members, hobject⟩ := h.object a
    rw [hobject] at hsame
    obtain ⟨_, _, heq, -, -⟩ := hsame
    cases v with
    | null | string => cases heq
    | bool | number | array | object => trivial
  exact ⟨v, hv, hinline, hread⟩

namespace Parameters

/-- Parameters that a node can carry. Those without a shape of their own have to be a value that
stands for itself, any object for one, and that fits under the limit of nesting. -/
def Storable : Parameters → Prop
  | plain _ v => v.Inline ∧ v.Lawful ∧ v.document.depth < Document.maxDepth
  | _ => True

/-- In the text of a node the parameters give a value from which they are read again. -/
structure ReadAgain (p : Parameters) : Prop where
  unrepeated : p.document.Unrepeated
  exists_value : ∃ v, Value.ofNested? 1 p.document = some v ∧ v.Inline ∧
    ofValue? p.taskType v = some p

/-- Parameters that are a record of their own are read again. -/
theorem ReadAgain.of_lossless {α : Type} {read : Document → Option α} {write : α → Document}
    (h : LosslessShape read write) (a : α) {p : Parameters} {make : α → Parameters}
    (hmake : make a = p) (hwrite : p.document = write a)
    (hread : ∀ v, ofValue? p.taskType v = (read v.document).map make) : p.ReadAgain := by
  obtain ⟨v, hv, hinline, ha⟩ := h.exists_value a
  rw [← hwrite] at hv
  refine ⟨?_, v, hv, hinline, ?_⟩
  · rw [hwrite]
    exact h.unrepeated a
  · rw [hread, ha, Option.map_some, hmake]

theorem Storable.readAgain {p : Parameters} (h : p.Storable) : p.ReadAgain := by
  cases p with
  | shell p => exact .of_lossless ScriptParameters.lossless p rfl rfl fun _ => rfl
  | python p => exact .of_lossless ScriptParameters.lossless p rfl rfl fun _ => rfl
  | sql p => exact .of_lossless SqlParameters.lossless p rfl rfl fun _ => rfl
  | procedure p => exact .of_lossless ProcedureParameters.lossless p rfl rfl fun _ => rfl
  | datax p => exact .of_lossless TransferParameters.lossless p rfl rfl fun _ => rfl
  | spark p => exact .of_lossless JarParameters.lossless p rfl rfl fun _ => rfl
  | flink p => exact .of_lossless JarParameters.lossless p rfl rfl fun _ => rfl
  | mapReduce p => exact .of_lossless JarParameters.lossless p rfl rfl fun _ => rfl
  | plain type v =>
    obtain ⟨hinline, hlawful, hdepth⟩ := h
    have hread : Value.ofNested? 1 v.document = some v :=
      Value.ofNested?_eq_some_iff.2 ⟨hdepth, Value.ofDocument?_document hlawful⟩
    refine ⟨Value.unrepeated_document hlawful, v, hread, hinline, ?_⟩
    cases type <;> rfl

end Parameters

/-! ## Nodes -/

namespace TaskNode

/-- A node with anything in it as parameters, in JSON. -/
def documentWith (tag name : String) (params : Document) (group : Option String) : Document :=
  .record [
    ("type", .text tag),
    ("name", .text name),
    ("params", params),
    ("workerGroup", .option .text group)]

variable {tag name : String} {params d : Document} {group : Option String} {v : Value}

/-- **A node is read from its text**, in whatever order the members of its objects are written. -/
theorem ofText?_print (hv : Value.ofNested? 1 params = some v) (hu : params.Unrepeated)
    (h : (documentWith tag name params group).Reordered d) :
    ofText? d.print = some ⟨tag, name, v, group⟩ := by
  obtain ⟨f, hf, hsame⟩ := Fields.exists_reordered (show fieldNames.Nodup by decide)
    (List.Sublist.refl _) h
  have htag : f.required "type" asString = some tag := by
    rw [hsame.required Steady.asString]
    simp
  have hname : f.defaulted "name" asString "" = some name := by
    rw [hsame.defaulted Steady.asString]
    simp [List.lookup_cons]
  have hparams : f.defaulted "params" (Value.ofNested? 1) .null = some v := by
    rw [hsame.defaulted_value (by simpa [Fields.get?, List.lookup_cons] using hu)]
    simpa [List.lookup_cons] using hv
  have hgroup : f.optional "workerGroup" asString = some group := by
    rw [hsame.optional Steady.asString]
    simp [List.lookup_cons]
  unfold ofText? read
  rw [Document.read?_print, some_bind, hf, some_bind, htag, hname, hparams, hgroup]
  rfl

/-- **Parameters are read from the text of a node as they were written**, whatever their type, and so
are the name and the worker group of the node. The parameters that are read are the same ones, so that
they are for the same task type and refer to the same resources. -/
theorem keeps_parameters (p : Parameters) (hp : p.Storable) (tag name : String)
    (group : Option String) (d : Document)
    (hd : (documentWith tag name p.document group).Reordered d) :
    ∃ n, ofText? d.print = some n ∧ n.typeTag = tag ∧ n.name = name ∧ n.workerGroup = group ∧
      (∃ v, n.paramsValue? = some v ∧ Parameters.ofValue? p.taskType v = some p) ∧
      Resolver.parametersOf p.taskType n = pure p := by
  obtain ⟨hunrepeated, v, hv, hinline, hread⟩ := hp.readAgain
  have hvalue : (⟨tag, name, v, group⟩ : TaskNode).paramsValue? = some v :=
    paramsValue?_of_inline hinline
  refine ⟨⟨tag, name, v, group⟩, ofText?_print hv hunrepeated hd, rfl, rfl, rfl,
    ⟨v, hvalue, hread⟩, ?_⟩
  rw [Resolver.parametersOf_eq, hvalue, Option.bind_some, hread]
  rfl

/-- A job whose main jar has no number, and a task without a shape of its own whose object is nested,
in nodes whose members stand in the reverse order. -/
theorem keeps_parameters_jar :
    let jar : Parameters := .spark ⟨some ⟨none, some "main.jar"⟩, none, some "",
      [⟨some ⟨5⟩, none⟩, ⟨some ⟨-9223372036854775808⟩, some "lib.jar"⟩, ⟨some ⟨5⟩, none⟩]⟩
    let call : Parameters := .plain .http
      (.object [("retries", .array [.number (.ofInt 3), .null]), ("url", .string "null")])
    (jar.Storable ∧ call.Storable) ∧
    ∀ p ∈ [jar, call], ∃ n, ofText? (Document.record [
        ("workerGroup", .null), ("params", p.document), ("name", .text "count"),
        ("type", .text p.taskType.tag)]).print = some n ∧
      n.name = "count" ∧ n.workerGroup = none ∧
      Resolver.parametersOf p.taskType n = pure p := by
  intro jar call
  have hjar : jar.Storable := trivial
  have hcall : call.Storable := by
    have hthree : (Numeral.ofInt 3).inRange = true := Numeral.inRange_ofInt (by decide)
    have hnames : "retries" < "url" := by decide
    exact ⟨trivial, ⟨List.pairwise_pair.2 hnames, ⟨hthree, trivial, trivial⟩, trivial, trivial⟩,
      by decide⟩
  refine ⟨⟨hjar, hcall⟩, ?_⟩
  have hstorable : ∀ p ∈ [jar, call], p.Storable := by simp [hjar, hcall]
  intro p hp
  have hreverse := Document.reordered_record (List.reverse_perm
    [("workerGroup", Document.null), ("params", p.document), ("name", .text "count"),
      ("type", .text p.taskType.tag)])
  obtain ⟨n, hn, -, hname, hgroup, -, hparams⟩ :=
    keeps_parameters p (hstorable p hp) p.taskType.tag "count" none _ hreverse
  exact ⟨n, hn, hname, hgroup, hparams⟩

end TaskNode

end Handoff
