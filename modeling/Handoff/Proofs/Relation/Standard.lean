import Handoff.Proofs.Resolution.Needs
import Handoff.Proofs.Session.Outages
/-!
# The relations of tasks

What the builders at hand make of the parameters of a task: the relation that the parameters have to
stored records, or the fault of a record that is not there and of a list that cannot be read.

* `Store.Relates`, `Store.Lacks`: the relation that parameters have, and what keeps them from having
  one; `Store.relates_or_lacks`: it is one or the other.
* `gives_build_of_relates`, `gives_build_of_lacks`: the registry of these builders comes to either.
* `standard_build_iff`: **the registry comes to a relation just if the parameters have it, to a fault
  just if they lack something, and never to a mismatch.**
-/

namespace Handoff

open Resolving Text

/-! ## Relations to records -/

/-- The kind of relation that tasks of a type have. -/
def TaskType.relationKind : TaskType → RelationKind
  | sql => .sql
  | datax => .datax
  | procedure => .procedure
  | _ => .none

namespace Store

/-- The functions that there are for SQL parameters: none if they list none, and else the registered
ones whose ids occur in the list, as they are registered. -/
inductive Supplies (s : Store) (p : SqlParameters) : List Udf → Prop where
  | none (hnone : ∀ list, ¬p.Lists list) : Supplies s p []
  | listed {list : List Char} {ids : List UdfId} (hlist : p.Lists list)
    (hread : readUdfIds list = .ok ids) : Supplies s p (s.udfs.filter fun f => f.id ∈ ids)

/-- The relation that parameters have to the records of a store. -/
inductive Relates (s : Store) : Parameters → Relation → Prop where
  | none {p : Parameters} (hp : p.taskType.relationKind = .none) : Relates s p .none
  | sql {p : SqlParameters} {source : DataSource} {udfs : List Udf}
    (hsource : s.dataSource? p.dataSource = some source) (hudfs : s.Supplies p udfs) :
    Relates s (.sql p) (.sql ⟨source.connectionParams, udfs⟩)
  | datax {p : TransferParameters} {source target : DataSource}
    (hsource : s.dataSource? p.source = some source)
    (htarget : s.dataSource? p.target = some target) :
    Relates s (.datax p) (.datax ⟨p.source, source.dbType.code, source.connectionParams,
      p.target, target.dbType.code, target.connectionParams⟩)
  | procedure {p : ProcedureParameters} {source : DataSource}
    (hsource : s.dataSource? p.dataSource = some source) :
    Relates s (.procedure p) (.procedure ⟨source.connectionParams⟩)

/-- What keeps parameters from having a relation: the first of the data sources they name that is not
stored, or, where all are, a list of functions that cannot be read. -/
inductive Lacks (s : Store) : Parameters → Fault → Prop where
  | source {p : Parameters} {before after : List DataSourceId} {id : DataSourceId}
    (hp : p.dataSourceIds = before ++ id :: after)
    (hbefore : ∀ id ∈ before, (s.dataSource? id).isSome) (hid : s.dataSource? id = none) :
    Lacks s p (.dataSourceNotFound id)
  | udfs {p : SqlParameters} {list : List Char} {raw : String} {cause : IntegerFault}
    (hsource : (s.dataSource? p.dataSource).isSome) (hlist : p.Lists list)
    (hread : readUdfIds list = .error (.invalidUdfId raw cause)) :
    Lacks s (.sql p) (.invalidUdfId raw cause)

end Store

namespace Resolving

/-! ## What computations come to -/

variable {α β : Type} {store : Store} {x : Resolving α} {f : α → Resolving β}

/-- From this store, and with every method up, the computation comes to this result. -/
def Gives (store : Store) (x : Resolving α) (result : Except Fault α) : Prop :=
  ∀ ⦃s : Session⦄, s.store = store → (s.outages = fun _ => none) → (x.exec s).1 = result

theorem gives_pure (a : α) : Gives store (pure a) (.ok a) :=
  fun _ _ _ => rfl

theorem gives_throw (fault : Fault) : Gives store (throw fault : Resolving α) (.error fault) :=
  fun _ _ _ => rfl

/-- What comes after a look-up may count on its answer. -/
theorem gives_ask_bind {c : Call} {answer : Store → α} {result : Except Fault β}
    (h : Gives store (f (answer store)) result) : Gives store (ask c answer >>= f) result := by
  intro s hstore hup
  subst hstore
  have hanswered : s.outages c.method = none := by rw [hup]
  rw [exec_ask_bind f hanswered]
  exact h rfl hup

/-- What is read first leaves the store to what comes then. -/
theorem gives_bind {R : Store → Store → Prop} {a : α} {result : Except Fault β} (hreads : Reads R x)
    (hx : Gives store x (.ok a)) (hf : Gives store (f a) result) : Gives store (x >>= f) result := by
  intro s hstore hup
  obtain ⟨hkeep, hout⟩ := hreads.keeps s
  rw [exec_bind_of_ok f (hx hstore hup)]
  exact hf (hkeep.trans hstore) (hout.trans hup)

/-- Nothing comes after a fault. -/
theorem gives_bind_error {fault : Fault} (hx : Gives store x (.error fault)) :
    Gives store (x >>= f) (.error fault) := by
  intro s hstore hup
  rw [exec_bind_of_error f (hx hstore hup)]

end Resolving

/-! ## Builders -/

section

variable {store : Store} {p : Parameters}

theorem gives_needDataSource {id : DataSourceId} {source : DataSource}
    (h : store.dataSource? id = some source) : Gives store (needDataSource id) (.ok source) := by
  refine gives_ask_bind ?_
  rw [h]
  exact gives_pure source

theorem gives_needDataSource_of_none {id : DataSourceId} (h : store.dataSource? id = none) :
    Gives store (needDataSource id) (.error (.dataSourceNotFound id)) := by
  refine gives_ask_bind ?_
  rw [h]
  exact gives_throw _

theorem gives_findUdfs {q : SqlParameters} {udfs : List Udf} (h : store.Supplies q udfs) :
    Gives store (findUdfs q) (.ok udfs) := by
  unfold findUdfs
  cases h with
  | none hnone =>
    have hlist : udfListOf q = none := by
      rw [Option.eq_none_iff_forall_ne_some]
      exact fun list hlist => hnone list (SqlParameters.lists_iff.2 hlist)
    rw [hlist]
    exact gives_pure []
  | @listed list ids hlist hread =>
    have hudfs : store.udfs.filter (fun f => f.id ∈ ids) = store.udfsOf ids := by
      refine List.filter_congr fun f _ => ?_
      rw [Bool.eq_iff_iff, List.contains_iff_mem, decide_eq_true_iff]
    rw [SqlParameters.lists_iff.1 hlist]
    dsimp only
    rw [hread, hudfs]
    show Gives store (ask (.udfsByIds ids) fun s => s.udfsOf ids) _
    rw [← bind_pure (ask (.udfsByIds ids) fun s => s.udfsOf ids)]
    exact gives_ask_bind (gives_pure _)

theorem gives_findUdfs_of_error {q : SqlParameters} {list : List Char} {fault : Fault}
    (hlist : q.Lists list) (hread : readUdfIds list = .error fault) :
    Gives store (findUdfs q) (.error fault) := by
  unfold findUdfs
  rw [SqlParameters.lists_iff.1 hlist]
  dsimp only
  rw [hread]
  exact gives_throw fault

/-- A data source that is looked up by an id has it. -/
theorem Store.id_of_dataSource? {id : DataSourceId} {source : DataSource}
    (h : store.dataSource? id = some source) : source.id = id := by
  simpa using List.find?_some h

/-- Parameters without a relation lead to no call. -/
theorem exec_standard_of_none (h : p.taskType.relationKind = .none) (s : Session) :
    (Registry.standard.build p).exec s = (.ok .none, s) := by
  cases p with
  | sql | datax | procedure => cases h
  | plain type value => cases type <;> rfl
  | shell | python | spark | flink | mapReduce => rfl

/-- Where parameters have a relation, the registry comes to it. -/
theorem gives_build_of_relates {relation : Relation} (h : store.Relates p relation) :
    Gives store (Registry.standard.build p) (.ok relation) := by
  cases h with
  | none hp =>
    intro s _ _
    rw [exec_standard_of_none hp]
  | @sql q source udfs hsource hudfs =>
    show Gives store (buildSql (.sql q)) _
    refine gives_bind (reads_needDataSource _) (gives_needDataSource hsource) ?_
    exact gives_bind (reads_findUdfs q) (gives_findUdfs hudfs) (gives_pure _)
  | @datax q source target hsource htarget =>
    show Gives store (buildTransfer (.datax q)) _
    rw [← Store.id_of_dataSource? hsource, ← Store.id_of_dataSource? htarget]
    refine gives_bind (reads_needDataSource _) (gives_needDataSource hsource) ?_
    exact gives_bind (reads_needDataSource _) (gives_needDataSource htarget) (gives_pure _)
  | @procedure q source hsource =>
    show Gives store (buildProcedure (.procedure q)) _
    exact gives_bind (reads_needDataSource _) (gives_needDataSource hsource) (gives_pure _)

/-- Where parameters lack something, the registry comes to the fault that says so. -/
theorem gives_build_of_lacks {fault : Fault} (h : store.Lacks p fault) :
    Gives store (Registry.standard.build p) (.error fault) := by
  cases h with
  | @source _ before after id hp hbefore hid =>
    have hmem : id ∈ p.dataSourceIds := by
      rw [hp]
      exact List.mem_append_cons_self
    cases p with
    | sql q =>
      obtain rfl : id = q.dataSource := List.mem_singleton.1 hmem
      exact gives_bind_error (gives_needDataSource_of_none hid)
    | procedure q =>
      obtain rfl : id = q.dataSource := List.mem_singleton.1 hmem
      exact gives_bind_error (gives_needDataSource_of_none hid)
    | datax q =>
      have htwo : [q.source, q.target] = before ++ id :: after := hp
      rcases before with _ | ⟨first, _ | ⟨second, rest⟩⟩
      · -- the source is not there, and the target is not looked up
        obtain ⟨rfl, -⟩ : q.source = id ∧ [q.target] = after := by simpa using htwo
        exact gives_bind_error (gives_needDataSource_of_none hid)
      · obtain ⟨rfl, rfl, -⟩ : q.source = first ∧ q.target = id ∧ after = [] := by simpa using htwo
        obtain ⟨source, hsource⟩ := Option.isSome_iff_exists.1 (hbefore _ List.mem_cons_self)
        show Gives store (buildTransfer (.datax q)) _
        refine gives_bind (reads_needDataSource _) (gives_needDataSource hsource) ?_
        exact gives_bind_error (gives_needDataSource_of_none hid)
      · simp at htwo
    | plain | shell | python | spark | flink | mapReduce => cases hmem
  | @udfs q list raw cause hsource hlist hread =>
    obtain ⟨source, hsource⟩ := Option.isSome_iff_exists.1 hsource
    show Gives store (buildSql (.sql q)) _
    refine gives_bind (reads_needDataSource _) (gives_needDataSource hsource) ?_
    exact gives_bind_error (gives_findUdfs_of_error hlist hread)

/-- There are functions for SQL parameters, unless they list functions and the list cannot be read. -/
theorem Store.supplies_or_error (store : Store) (q : SqlParameters) :
    (∃ udfs, store.Supplies q udfs) ∨
      ∃ list raw cause, q.Lists list ∧ readUdfIds list = .error (.invalidUdfId raw cause) := by
  cases hlist : udfListOf q with
  | none =>
    have hnone : ∀ list, ¬q.Lists list := by
      intro list h
      rw [SqlParameters.lists_iff, hlist] at h
      cases h
    exact .inl ⟨[], .none hnone⟩
  | some list =>
    have hlist := SqlParameters.lists_iff.2 hlist
    cases hread : readUdfIds list with
    | ok ids => exact .inl ⟨_, .listed hlist hread⟩
    | error fault =>
      obtain ⟨entry, -, cause, -, rfl⟩ := readUdfIds_eq_error hread
      exact .inr ⟨list, _, cause, hlist, hread⟩

/-- Parameters have a relation, or lack something that it needs. -/
theorem Store.relates_or_lacks (store : Store) (p : Parameters) :
    (∃ relation, store.Relates p relation) ∨ ∃ fault, store.Lacks p fault := by
  have hmissing : ∀ {id : DataSourceId} {after : List DataSourceId},
      p.dataSourceIds = id :: after → store.dataSource? id = none →
        ∃ fault, store.Lacks p fault := by
    intro id after hp hid
    have hfirst : p.dataSourceIds = [] ++ id :: after := hp
    exact ⟨_, .source hfirst (fun _ h => absurd h List.not_mem_nil) hid⟩
  cases p with
  | sql q =>
    cases hsource : store.dataSource? q.dataSource with
    | none => exact .inr (hmissing rfl hsource)
    | some source =>
      rcases store.supplies_or_error q with ⟨udfs, hudfs⟩ | ⟨list, raw, cause, hlist, hread⟩
      · exact .inl ⟨_, .sql hsource hudfs⟩
      · have hsome : (store.dataSource? q.dataSource).isSome := by
          rw [hsource]
          rfl
        exact .inr ⟨_, .udfs hsome hlist hread⟩
  | datax q =>
    cases hsource : store.dataSource? q.source with
    | none => exact .inr (hmissing rfl hsource)
    | some source =>
      cases htarget : store.dataSource? q.target with
      | none =>
        have hsecond : (Parameters.datax q).dataSourceIds = [q.source] ++ q.target :: [] := rfl
        refine .inr ⟨_, .source hsecond ?_ htarget⟩
        intro id hid
        rw [List.mem_singleton.1 hid, hsource]
        rfl
      | some target => exact .inl ⟨_, .datax hsource htarget⟩
  | procedure q =>
    cases hsource : store.dataSource? q.dataSource with
    | none => exact .inr (hmissing rfl hsource)
    | some source => exact .inl ⟨_, .procedure hsource⟩
  | plain type value => exact .inl ⟨.none, .none (by cases type <;> rfl)⟩
  | shell | python | spark | flink | mapReduce => exact .inl ⟨.none, .none rfl⟩

theorem Store.Relates.kind {relation : Relation} (h : store.Relates p relation) :
    relation.kind = p.taskType.relationKind := by
  cases h with
  | none hp => exact hp.symm
  | sql | datax | procedure => rfl

theorem Store.Lacks.ne_mismatch {fault : Fault} (h : store.Lacks p fault)
    (expected actual : TaskType) : fault ≠ .relationMismatch expected actual := by
  cases h <;> nofun

/-- Parameters are for the type under which they were read. -/
theorem Parameters.taskType_of_ofValue? {type : TaskType} {v : Json.Value}
    (h : Parameters.ofValue? type v = some p) : p.taskType = type := by
  cases type with
  | http | sqoop | dependent | subProcess | conditions =>
    obtain rfl := Option.some.inj h
    rfl
  | shell | python | sql | procedure | datax | spark | flink | mapReduce =>
    obtain ⟨q, -, rfl⟩ := Option.map_eq_some_iff.1 h
    rfl

end

variable {type : TaskType} {v : Json.Value} {p : Parameters}

/-- **The registry of the builders at hand comes to a relation just if the parameters have it, and to a
fault just if they lack something.** So the kind of the relation is that of the type of the task, no
call is made where it has none, and no builder is given parameters of another type. -/
theorem standard_build_iff (h : Parameters.ofValue? type v = some p) (s : Session) :
    let run := (Registry.standard.build p).exec s.up
    (∀ relation, run.1 = .ok relation ↔ s.store.Relates p relation) ∧
    (∀ fault, run.1 = .error fault ↔ s.store.Lacks p fault) ∧
    (∀ relation, run.1 = .ok relation → relation.kind = type.relationKind) ∧
    (type.relationKind = .none → run = (.ok .none, s.up)) ∧
    ∀ expected actual, run.1 ≠ .error (.relationMismatch expected actual) := by
  intro run
  have htype := Parameters.taskType_of_ofValue? h
  have hrelates : ∀ relation, s.store.Relates p relation → run.1 = .ok relation :=
    fun relation hrelation => gives_build_of_relates hrelation rfl rfl
  have hlacks : ∀ fault, s.store.Lacks p fault → run.1 = .error fault :=
    fun fault hfault => gives_build_of_lacks hfault rfl rfl
  -- the run has come to what the parameters have, or to what they lack
  have hok : ∀ relation, run.1 = .ok relation → s.store.Relates p relation := by
    intro relation hrun
    rcases s.store.relates_or_lacks p with ⟨relation', hrelation⟩ | ⟨fault, hfault⟩
    · rw [hrelates relation' hrelation] at hrun
      rwa [← Except.ok.inj hrun]
    · rw [hlacks fault hfault] at hrun
      cases hrun
  have herror : ∀ fault, run.1 = .error fault → s.store.Lacks p fault := by
    intro fault hrun
    rcases s.store.relates_or_lacks p with ⟨relation, hrelation⟩ | ⟨fault', hfault⟩
    · rw [hrelates relation hrelation] at hrun
      cases hrun
    · rw [hlacks fault' hfault] at hrun
      rwa [← Except.error.inj hrun]
  refine ⟨fun relation => ⟨hok relation, hrelates relation⟩,
    fun fault => ⟨herror fault, hlacks fault⟩, ?_, ?_, ?_⟩
  · intro relation hrun
    rw [← htype]
    exact (hok relation hrun).kind
  · intro hkind
    rw [← htype] at hkind
    exact exec_standard_of_none hkind s.up
  · intro expected actual hrun
    exact (herror _ hrun).ne_mismatch expected actual rfl

/-- SQL parameters that list functions twice, and not in the order of the store. -/
def listedUdfs : SqlParameters :=
  ⟨"HIVE", ⟨3⟩, "", some " 2, 1,2, "⟩

/-- Records with three functions, two of which are listed. -/
def listedRecords : Snapshot :=
  { Resolver.sqlRecords with
    udfs := [⟨⟨1⟩, "trim", "Trim", .hive, none⟩, ⟨⟨3⟩, "fold", "Fold", .hive, none⟩,
      ⟨⟨2⟩, "norm", "Norm", .spark, none⟩] }

/-- Each of the functions is there once, in the order of the store. -/
theorem standard_build_iff_listed :
    let v : Json.Value := .object [("datasource", .number (.ofInt 3)), ("type", .string "HIVE"),
      ("udfs", .string " 2, 1,2, ")]
    let s := Session.fresh (.ofSnapshot listedRecords) fun _ => none
    Parameters.ofValue? .sql v = some (.sql listedUdfs) ∧
      ((Registry.standard.build (.sql listedUdfs)).exec s.up).1 =
        .ok (.sql ⟨"jdbc:hive2://facts", [⟨⟨1⟩, "trim", "Trim", .hive, none⟩,
          ⟨⟨2⟩, "norm", "Norm", .spark, none⟩]⟩) := by
  intro v s
  have hparameters : SqlParameters.read v.document = some listedUdfs := by decide +kernel
  have h : Parameters.ofValue? .sql v = some (.sql listedUdfs) :=
    congrArg (Option.map Parameters.sql) hparameters
  have hlist : listedUdfs.Lists (trim " 2, 1,2, ".toList) := ⟨.inl rfl, _, rfl, by decide, rfl⟩
  have hread : readUdfIds (trim " 2, 1,2, ".toList) = .ok [⟨2⟩, ⟨1⟩, ⟨2⟩] := by decide +kernel
  have hfound : (s.store.udfs.filter fun f => f.id ∈ ([⟨2⟩, ⟨1⟩, ⟨2⟩] : List UdfId)) =
      [⟨⟨1⟩, "trim", "Trim", .hive, none⟩, ⟨⟨2⟩, "norm", "Norm", .spark, none⟩] := by decide
  have hsource : s.store.dataSource? ⟨3⟩ = some ⟨⟨3⟩, "facts", .hive, "jdbc:hive2://facts"⟩ := rfl
  obtain ⟨hok, -⟩ := standard_build_iff h s
  refine ⟨h, (hok _).2 ?_⟩
  rw [← hfound]
  exact .sql hsource (.listed hlist hread)

end Handoff
