import Handoff.Proofs.Instant.Text
import Handoff.Proofs.Json.Records
import Handoff.Request
/-!
# Contexts and requests in text

A context travels as a text inside a command, and the command inside a request that is again a
text, so that every string of the context is escaped twice. Nothing of it gets lost.

* `ResourceNames.read_document`: no resources stay apart from an empty list of them.
* `Relation.read_document`: a relation is read as one of its kind, though it is gathered whole
  before the kind is known.
* `Context.read_document`, `Request.read_document`: contexts and requests are read from their
  documents.
* `Request.Carries`, `HandsOver`: a request for a worker whose body is a context, and a line from which
  such a request is read.
* `Request.forWorker_lossless`: **a context comes out of its command, and out of the line that shows
  its request, as it went in.**
-/

namespace Handoff

open Json

/-! ## Parts of a context -/

@[simp] theorem Instant.read_document (t : Instant) : Instant.read t.document = some t := by
  unfold Instant.read Instant.document
  rw [asString_text, Option.bind_some, Instant.read?_text]

@[simp] theorem Instant.asOption_document (t : Option Instant) :
    asOption Instant.read (.option Instant.document t) = some t :=
  asOption_option Instant.read_document (fun _ => by rintro ⟨⟩) t

/-- No resources stay apart from an empty list of them. -/
@[simp] theorem ResourceNames.read_document (r : ResourceNames) :
    ResourceNames.read r.document = some r := by
  cases r with
  | none => rfl
  | names ns =>
    have hnames : asList asString (.list .text ns) = some ns := asList_list asString_text ns
    show (asList asString (.list .text ns)).map names = _
    rw [hnames]
    rfl

@[simp] theorem Udf.read_document (source : Source) (u : Udf) :
    Udf.read source u.document = some u := by
  have hfields : Fields.read? fieldNames u.document = some ⟨true, _⟩ :=
    Fields.read?_record (by decide) (List.Sublist.refl _)
  unfold Udf.read
  rw [hfields]
  simp [List.lookup_cons]

theorem Udf.admissible_document {levels : Nat} (h : levels < Document.maxDepth) (u : Udf) :
    u.document.admissible levels = true := by
  refine Document.admissible_record h ?_
  intro m hm
  simp only [List.mem_cons, List.not_mem_nil, or_false] at hm
  rcases hm with rfl | rfl | rfl | rfl | rfl
  · exact Id.admissible_document h _
  · exact Document.admissible_text h _
  · exact Document.admissible_text h _
  · exact Document.admissible_text h _
  · exact Document.admissible_option h fun _ _ => Document.admissible_text h _

/-! ## Relations -/

theorem SqlRelation.read_members (source : Source) (r : SqlRelation) :
    SqlRelation.read source (.record r.members) = some r := by
  have hfields : Fields.read? fieldNames (.record r.members) = some ⟨true, _⟩ :=
    Fields.read?_record (by decide) (List.Sublist.refl _)
  have hudfs : asList (Udf.read source) (.list Udf.document r.udfs) = some r.udfs :=
    asList_list (Udf.read_document source) r.udfs
  unfold SqlRelation.read
  rw [hfields]
  simp [members, List.lookup_cons, hudfs]

theorem TransferRelation.read_members (r : TransferRelation) :
    TransferRelation.read (.record r.members) = some r := by
  have hfields : Fields.read? fieldNames (.record r.members) = some ⟨true, _⟩ :=
    Fields.read?_record (by decide) (List.Sublist.refl _)
  unfold TransferRelation.read
  rw [hfields]
  simp [members, List.lookup_cons]

theorem ProcedureRelation.read_members (r : ProcedureRelation) :
    ProcedureRelation.read (.record r.members) = some r := by
  have hfields : Fields.read? fieldNames (.record r.members) = some ⟨true, _⟩ :=
    Fields.read?_record (by decide) (List.Sublist.refl _)
  unfold ProcedureRelation.read
  rw [hfields]
  simp [members]

instance : LawfulChoice RelationKind := ⟨fun a => by cases a <;> decide⟩

namespace Relation

/-- A relation is read from its members, once its kind is known. -/
theorem ofKind?_members (r : Relation) : ofKind? r.kind (.record r.members) = some r := by
  cases r with
  | none => rfl
  | sql r =>
    show (SqlRelation.read .buffered (.record r.members)).map sql = _
    rw [SqlRelation.read_members]
    rfl
  | datax r =>
    show (TransferRelation.read (.record r.members)).map datax = _
    rw [TransferRelation.read_members]
    rfl
  | procedure r =>
    show (ProcedureRelation.read (.record r.members)).map procedure = _
    rw [ProcedureRelation.read_members]
    rfl

theorem extract_of_notMem {name : String} {members : List (String × Document)}
    (h : ∀ m ∈ members, m.1 ≠ name) :
    extract name (members.map fun m => (some m.1, m.2)) =
      ([], members.map fun m => (some m.1, m.2)) := by
  induction members with
  | nil => rfl
  | cons m ms ih =>
    have hm : some m.1 ≠ some name := fun heq => h m (by simp) (Option.some.inj heq)
    have hms := ih fun k hk => h k (by simp [hk])
    simp only [List.map_cons, extract, hms]
    rw [if_neg hm]

/-- No relation has a member that is called as the kind is. -/
theorem fst_ne_kind (r : Relation) : ∀ m ∈ r.members, m.1 ≠ "kind" := by
  cases r with
  | none => exact fun m hm => absurd hm List.not_mem_nil
  | sql r => simp [members, SqlRelation.members]
  | datax r => simp [members, TransferRelation.members]
  | procedure r => simp [members, ProcedureRelation.members]

theorem split?_document (r : Relation) :
    split? r.document = some (.text r.kind.name, .record r.members) := by
  -- of the members called so, there is exactly the first
  have hextract : extract "kind"
      ((("kind", Document.text r.kind.name) :: r.members).map fun m => (some m.1, m.2)) =
        ([.text r.kind.name], r.members.map fun m => (some m.1, m.2)) := by
    simp only [List.map_cons, extract, extract_of_notMem r.fst_ne_kind, if_true]
  unfold document split? Document.record
  simp only [hextract]

/-- A relation may stand in any context that is not nested too deep itself. -/
theorem admissible_document {levels : Nat} (h : levels + 3 ≤ Document.maxDepth) (r : Relation) :
    r.document.admissible levels = true := by
  have hint : ∀ (v : Int32) {levels : Nat}, levels ≤ Document.maxDepth →
      (Document.int v.toInt).admissible levels = true := by
    intro v levels hlevels
    have hl : -2147483648 ≤ v.toInt := Int32.minValue_le_toInt v
    have hh : v.toInt ≤ 2147483647 := Int32.toInt_le v
    have hlimit : Numeral.unsignedLimit = 18446744073709551616 := rfl
    exact Document.admissible_int hlevels (by omega)
  refine Document.admissible_record (by omega) ?_
  intro m hm
  rcases List.mem_cons.1 hm with rfl | hm
  · exact Document.admissible_text (by omega) _
  cases r with
  | none => cases hm
  | sql r =>
    simp only [members, SqlRelation.members, List.mem_cons, List.not_mem_nil, or_false] at hm
    rcases hm with rfl | rfl
    · exact Document.admissible_text (by omega) _
    exact Document.admissible_list (by omega) fun u _ => u.admissible_document (by omega)
  | datax r =>
    simp only [members, TransferRelation.members, List.mem_cons, List.not_mem_nil, or_false] at hm
    rcases hm with rfl | rfl | rfl | rfl | rfl | rfl
    · exact Id.admissible_document (by omega) _
    · exact hint _ (by omega)
    · exact Document.admissible_text (by omega) _
    · exact Id.admissible_document (by omega) _
    · exact hint _ (by omega)
    · exact Document.admissible_text (by omega) _
  | procedure r =>
    simp only [members, ProcedureRelation.members, List.mem_cons, List.not_mem_nil, or_false] at hm
    rw [hm]
    exact Document.admissible_text (by omega) _

/-- A relation is read from its document. -/
theorem read_document {levels : Nat} (h : levels + 3 ≤ Document.maxDepth) (r : Relation) :
    read levels r.document = some r := by
  have hkind : Choice.ofName? r.kind.name = some r.kind := LawfulChoice.ofName?_name r.kind
  unfold read
  rw [if_pos (r.admissible_document h), split?_document]
  simp only [Option.bind_eq_bind, Option.bind_some, asString_text, hkind]
  exact r.ofKind?_members

end Relation

/-! ## Contexts and requests -/

/-- A context is read from its document. -/
theorem Context.read_document (c : Context) : Context.read c.document = some c := by
  have hfields : Fields.read? fieldNames c.document = some ⟨true, _⟩ :=
    Fields.read?_record (by decide) (List.Sublist.refl _)
  have hrelation : Relation.read 1 c.relation.document = some c.relation :=
    Relation.read_document (by decide) c.relation
  unfold Context.read
  rw [hfields]
  simp only [some_bind, Fields.required_byName, Fields.nullable_byName, Fields.optional_byName,
    List.lookup_cons, String.reduceBEq, Option.bind_some, Option.elim_some,
    Id.read_document, asString_text, Choice.read_document, asOption_text,
    Instant.asOption_document, ResourceNames.read_document, hrelation]
  rfl

/-- A context comes out of its command as it went in. -/
theorem Command.context?_ofContext (serial : UInt64) (c : Context) :
    (ofContext serial c).context? = some c := by
  unfold context? ofContext
  rw [Document.read?_print, Option.bind_eq_bind, Option.bind_some, c.read_document]

@[simp] theorem Command.read_document (c : Command) : Command.read c.document = some c := by
  have hfields : Fields.read? fieldNames c.document = some ⟨true, _⟩ :=
    Fields.read?_record (by decide) (List.Sublist.refl _)
  unfold Command.read
  rw [hfields]
  simp [List.lookup_cons]

/-- A request is read from its document. -/
theorem Request.read_document (r : Request) : Request.read r.document = some r := by
  have hfields : Fields.read? fieldNames r.document = some ⟨true, _⟩ :=
    Fields.read?_record (by decide) (List.Sublist.refl _)
  unfold Request.read
  rw [hfields]
  simp [List.lookup_cons]

/-- A request is read from the line that shows it. -/
theorem Request.read_line (r : Request) : Document.read? r.line >>= Request.read = some r := by
  unfold line
  rw [Document.read?_print, Option.bind_eq_bind, Option.bind_some, r.read_document]

/-- A request that carries a context to a worker: its body is the context, and the group it is
addressed to is the one in the body. -/
structure Request.Carries (request : Request) (c : Context) : Prop where
  executor : request.executor = .worker
  body : request.command.context? = some c
  workerGroup : request.workerGroup = c.workerGroup

theorem Request.forWorker_carries (serial : UInt64) (c : Context) :
    (forWorker serial c).Carries c :=
  ⟨rfl, Command.context?_ofContext serial c, rfl⟩

/-- A line that hands over a context under a number: it is one line, and the request that is read from
it has the number and carries the context. -/
structure HandsOver (line : String) (serial : UInt64) (c : Context) : Prop where
  oneLine : ∀ char ∈ line.toList, 32 ≤ char.toNat
  request : ∃ request, (Document.read? line >>= Request.read) = some request ∧
    request.command.type = .taskExecuteRequest ∧ request.command.serial = serial ∧
      request.Carries c

theorem Request.handsOver_line (serial : UInt64) (c : Context) :
    HandsOver (forWorker serial c).line serial c where
  oneLine _ hchar := Document.le_toNat_of_mem_print hchar
  request := ⟨_, (forWorker serial c).read_line, rfl, rfl, forWorker_carries serial c⟩

/-- **A context comes out of its command, and out of the line that shows its request, as it went
in.** The line is one line, whatever the strings of the context hold. -/
theorem Request.forWorker_lossless (serial : UInt64) (c : Context) :
    (Command.ofContext serial c).context? = some c ∧
    (Document.read? (forWorker serial c).line >>= Request.read) = some (forWorker serial c) ∧
    (do
      let d ← Document.read? (forWorker serial c).line
      let request ← Request.read d
      request.command.context?) = some c ∧
    ∀ char ∈ (forWorker serial c).line.toList, 32 ≤ char.toNat := by
  have hcommand := Command.context?_ofContext serial c
  have hline := (forWorker serial c).read_line
  refine ⟨hcommand, hline, ?_, fun char hchar => Document.le_toNat_of_mem_print hchar⟩
  rw [← bind_assoc, hline, Option.bind_eq_bind, Option.bind_some]
  exact hcommand

end Handoff
