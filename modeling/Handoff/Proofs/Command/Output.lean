import Handoff.Proofs.Command.Vigil
import Handoff.Proofs.Context.Wire
import Handoff.Proofs.Fixture.References
import Handoff.Proofs.Record.Text
/-!
# What the command prints

A command that is to end once the queue is empty prints one line for each reference of its fixture
that has a context, in ascending order of the references, with numbers from 1 on. It does so in
whatever order the steps of its loop and of the vigil over it come. A fixture that cannot be read, or
with a ready text that denotes no reference, makes it fail before anything is printed.

* `Plan.expected`: the lines to be printed; `Plan.handsOver_expected`: what is read from them.
* `Plan.lines_prefix`, `Plan.result_eq`: **what a run of loop and vigil prints is a beginning of what
  is to be printed, and all of it in the end.**
* `Plan.exists_run_ended`: the run that the command makes is one of those.
* `RunResult.prints_in_order`: **the exit code and the lines of the command.**
-/

namespace Handoff

namespace Plan

variable (p : Plan)

/-! ## The loop of a plan -/

/-- The lines for the references: one for each that has a context, in ascending order, numbered. -/
def expected (p : Plan) : List String :=
  ((Queue.sorted p.references).filterMap
    ((⟨.standard, p.settings⟩ : Resolver).context? p.desk.session)).mapIdx fun k c =>
      (Request.forWorker (UInt64.ofNat (k + 1)) c).line

/-- Each of the lines hands over its context under its number. -/
theorem handsOver_expected {k : Nat} {line : String} {c : Context}
    (hline : p.expected[k]? = some line)
    (hc : ((Queue.sorted p.references).filterMap
      ((⟨.standard, p.settings⟩ : Resolver).context? p.desk.session))[k]? = some c) :
    HandsOver line (UInt64.ofNat (k + 1)) c := by
  rw [expected, List.getElem?_mapIdx, hc] at hline
  obtain rfl := Option.some.inj hline
  exact Request.handsOver_line _ c

theorem expected_eq : ((consumeAll ⟨.standard, p.settings⟩ (Queue.sorted p.references)
    p.desk).2.requests).map Request.line = p.expected := by
  have hone : ∀ k : Nat, (1 : UInt64) + UInt64.ofNat k = UInt64.ofNat (k + 1) := by
    intro k
    rw [UInt64.ofNat_add, UInt64.add_comm]
    rfl
  rw [consumeAll_requests builtIn_standard (Store.keyed_ofSnapshot p.records)
    (Store.alike_refl _) rfl (s := p.desk.session)]
  show (Request.numbered 1 _).map Request.line = _
  rw [Request.map_numbered]
  simp only [hone]
  rfl

theorem follows_vigil : p.vigil.Follows ⟨.standard, p.settings⟩ p.desk (Queue.sorted p.references)
    [] :=
  ⟨Loop.follows_spawn, fun h => absurd rfl h, nofun, nofun⟩

variable {p} {steps : List VigilStep} {v : Vigil} {result : RunResult}

/-- Whatever the order of steps, the loop follows a fold over the references. -/
theorem follows_run (hr : p.vigil.run steps = some v) : ∃ its,
    v.Follows ⟨.standard, p.settings⟩ p.desk (Queue.sorted p.references) its :=
  Vigil.follows_run blind_standard p.follows_vigil hr

/-- **What was printed so far is a beginning of what is to be printed.** -/
theorem lines_prefix (hr : p.vigil.run steps = some v) : v.lines <+: p.expected := by
  obtain ⟨its, hf⟩ := follows_run hr
  rw [← expected_eq]
  exact hf.requests_prefix.map Request.line

/-- **In the end all of it is printed.** -/
theorem result_eq (hr : p.vigil.run steps = some v) (h : v.result? = some result) :
    result.code = 0 ∧ result.stdout = p.expected := by
  obtain ⟨its, hf⟩ := follows_run hr
  unfold Vigil.result? at h
  split at h
  · rename_i hover
    cases h
    refine ⟨rfl, ?_⟩
    rw [← expected_eq]
    exact congrArg (List.map Request.line) (hf.requests_eq hover)
  · cases h

/-- Looks and rests apart, a run makes a bounded number of steps. -/
theorem work_le (hr : p.vigil.run steps = some v) :
    (steps.filter fun s => !s.isPoll).length ≤ 6 * p.references.length + 11 := by
  have hwork := Vigil.work_le hr
  have hsize : (Queue.sorted p.references).length = p.references.length :=
    (Queue.sorted_perm p.references).length_eq
  have hrank : p.vigil.rank = p.references.length * 6 + 11 := by
    rw [← hsize]
    rfl
  omega

theorem exists_end (hr : p.vigil.run steps = some v) :
    ∃ more v', v.run more = some v' ∧ v'.result?.isSome := by
  obtain ⟨its, hf⟩ := follows_run hr
  obtain ⟨more, v', hmore, hover, -⟩ := hf.exists_end blind_standard
  refine ⟨more, v', hmore, ?_⟩
  rw [Vigil.result?, if_pos hover]
  rfl

/-- The loop may be left to itself until it waits. -/
theorem exists_run_idle (p : Plan) : ∃ steps, p.vigil.run steps = some ⟨.looking, p.idle⟩ := by
  obtain ⟨own, hown, hidle⟩ := Loop.exists_own_runFor p.loop.cost p.loop
  exact ⟨own.map .loop, Vigil.run_loop .looking hown hidle⟩

/-- What is printed until the loop waits is all that is printed. -/
theorem output_eq (p : Plan) : p.output = p.expected := by
  obtain ⟨steps, hwait⟩ := p.exists_run_idle
  obtain ⟨its, hf⟩ := follows_run hwait
  obtain ⟨hcur, hpend, hheld⟩ := hf.loop.idle (Loop.next?_runAlone p.loop)
  have horder := hf.loop.inOrder
  rw [hcur, hheld, List.append_nil, List.append_nil] at horder
  have hrequests := Desk.requests_of_quiet (hf.loop.between hpend)
  rw [horder] at hrequests
  rw [← expected_eq]
  exact congrArg (List.map Request.line) hrequests

/-- The run that the command makes: the loop is left to itself until it waits, then the vigil looks at
the queue, and the loop is left to itself again until it ends. -/
theorem exists_run_ended (p : Plan) : ∃ steps v, p.vigil.run steps = some v ∧
    v.result? = some ⟨0, p.output, p.events true, none⟩ := by
  obtain ⟨first, hwait⟩ := p.exists_run_idle
  -- a loop that waits has emptied the queue, so one look is enough
  have hlook : (⟨.looking, p.idle⟩ : Vigil).step .look = some ⟨.stopping, p.idle⟩ := by
    obtain ⟨its, hf⟩ := follows_run hwait
    obtain ⟨-, -, hheld⟩ := hf.loop.idle (Loop.next?_runAlone p.loop)
    rw [Vigil.step, if_pos rfl, Queue.isEmpty, hheld]
    rfl
  have hstop : (⟨.stopping, p.idle⟩ : Vigil).step .stop =
      some ⟨.joining, { p.idle with stopRequested := true }⟩ := rfl
  obtain ⟨own, hown, hended⟩ := Loop.exists_own_runFor
    (Loop.cost { p.idle with stopRequested := true }) { p.idle with stopRequested := true }
  have hleave : (⟨.joining, { p.idle with stopRequested := true }⟩ : Vigil).run
      (own.map .loop) = some ⟨.joining, p.ended⟩ := Vigil.run_loop .joining hown hended
  have hrun : p.vigil.run (first ++ .look :: .stop :: own.map .loop) =
      some ⟨.joining, p.ended⟩ := by
    rw [Vigil.run_append hwait, Vigil.run_cons hlook, Vigil.run_cons hstop, hleave]
  -- the loop was asked to stop and has no step to make, so it has ended
  have hjoin : (⟨.joining, p.ended⟩ : Vigil).step .join = some ⟨.done, p.ended⟩ := by
    obtain ⟨its, hf⟩ := follows_run hrun
    have hover := Vigil.hasEnded_of_next? (Loop.next?_runAlone _) (hf.asked rfl)
    rw [Vigil.step, if_pos ⟨rfl, hover⟩]
  have hall : p.vigil.run ((first ++ .look :: .stop :: own.map .loop) ++ [.join]) =
      some ⟨.done, p.ended⟩ := by
    rw [Vigil.run_append hrun, Vigil.run_cons hjoin]
    rfl
  obtain ⟨its, hf⟩ := follows_run hall
  have hphase : p.ended.phase = .stopped := hf.ended rfl
  have hquiet : p.ended.joinEvents = [] := by
    rw [Loop.joinEvents, hphase]
    rfl
  have hresult : (⟨.done, p.ended⟩ : Vigil).result? =
      some ⟨0, p.ended.desk.requests.map Request.line, p.events true, none⟩ := by
    rw [Vigil.result?, if_pos rfl, hquiet, List.append_nil]
    rfl
  have hlines : p.ended.desk.requests.map Request.line = p.output :=
    (result_eq hall hresult).2.trans p.output_eq.symm
  exact ⟨_, _, hall, hlines ▸ hresult⟩

variable {lookup : String → Option String} {path text : String} {settings : Settings}
  {fixture : Fixture} {now : Nat → Instant}

/-! ## What comes before the loop -/

/-- A fixture that can be read makes a plan. -/
theorem make_eq (hsettings : Settings.ofLookup lookup = .ok settings)
    (hfixture : Fixture.read? text = some fixture)
    (hready : ∀ raw ∈ fixture.ready, (Reference.read? raw).isSome) :
    make lookup path (some text) now =
      .ok ⟨settings, fixture.records, fixture.listed settings.defaultWorkerGroup now⟩ := by
  simp only [make, hsettings, hfixture, Fixture.references_eq hready, Except.mapError, bind,
    Except.bind, pure, Except.pure]

/-- A fixture that cannot be read, or has a ready text that denotes no reference, makes none. -/
theorem make_error (hsettings : Settings.ofLookup lookup = .ok settings)
    (h : Fixture.read? text = none ∨ ∃ fixture, Fixture.read? text = some fixture ∧
      ∃ raw ∈ fixture.ready, Reference.read? raw = none) :
    ∃ message, make lookup path (some text) now = .error message := by
  rcases h with hnone | ⟨fixture, hfixture, hraw⟩
  · refine ⟨parsingMessage path, ?_⟩
    simp only [make, hsettings, hnone, Except.mapError, bind, Except.bind]
  · obtain ⟨raw, herror⟩ : ∃ raw, fixture.references settings.defaultWorkerGroup now =
        .error raw := Fixture.references_error hraw
    refine ⟨Fixture.readyMessage raw, ?_⟩
    simp only [make, hsettings, hfixture, herror, Except.mapError, bind, Except.bind]

end Plan

/-! ## The command -/

/-- The arguments that name a fixture and ask for an end. -/
theorem Arguments.parse_exitWhenIdle {path : String} (hpath : path ≠ "")
    (hoption : isOption path.toList = false) :
    parse ["--fixture", path, "--exit-when-idle"] = .options ⟨path, true⟩ := by
  have hname : readOne ⟨none, false⟩ "--fixture".toList = .wantsValue := rfl
  have hvalue : Seen.withFixture ⟨none, false⟩ path.toList = some ⟨some path, false⟩ := by
    have hne : path.toList ≠ [] := fun h => hpath (String.toList_eq_nil_iff.1 h)
    rw [Seen.withFixture, if_neg (by simpa using hne), String.ofList_toList]
  have hflag : readOne ⟨some path, false⟩ "--exit-when-idle".toList = .seen ⟨some path, true⟩ :=
    rfl
  show readAll ⟨none, false⟩ ["--fixture".toList, path.toList, "--exit-when-idle".toList] = _
  simp only [readAll, hname, hoption, hvalue, hflag]
  rfl

namespace RunResult

/-- **What the command prints.** A fixture that cannot be read, or with a ready text that denotes no
reference, makes it print nothing and end with code 1. Otherwise it ends with code 0, and has printed
one line for each reference with a context, in ascending order of the references, that hands over this
context under a number, from 1 on, whatever the order of the steps of its loop and of the vigil over
it: at every point of every run what was printed is a beginning of that, at the end it is all of that,
and every run, which works for a bounded number of steps, can be brought to its end. The command
itself makes such a run. -/
theorem prints_in_order {args : List String} {environment loaded : Variables}
    {entries : List EnvFile.Entry} {readFile : String → Option String} {path text : String}
    {settings : Settings} (now : Nat → Instant)
    (hargs : Arguments.parse args = .options ⟨path, true⟩)
    (henv : withEnvFile environment (EnvFile.find? entries) = some loaded)
    (hsettings : Settings.ofLookup loaded.value? = .ok settings)
    (hfile : readFile path = some text) :
    let result := RunResult.of args environment entries readFile now
    ((Fixture.read? text = none ∨ ∃ fixture, Fixture.read? text = some fixture ∧
        ∃ raw ∈ fixture.ready, Reference.read? raw = none) →
      result.code = 1 ∧ result.stdout = []) ∧
    ∀ fixture, Fixture.read? text = some fixture →
      (∀ raw ∈ fixture.ready, (Reference.read? raw).isSome) →
      let references := fixture.listed settings.defaultWorkerGroup now
      let r : Resolver := ⟨.standard, settings⟩
      let alone : Session := .fresh (.ofSnapshot fixture.records) fun _ => none
      let start := Plan.vigil ⟨settings, fixture.records, references⟩
      ∃ ordered : List Reference, ordered.Perm references ∧ Ascending ordered ∧
        let contexts := ordered.filterMap (r.context? alone)
        ∃ lines : List String, lines.length = contexts.length ∧
          (∀ k line c, lines[k]? = some line → contexts[k]? = some c →
            HandsOver line (UInt64.ofNat (k + 1)) c) ∧
          result.code = 0 ∧ result.stdout = lines ∧
          (∀ steps v, start.run steps = some v → v.lines <+: lines ∧
            (∀ result', v.result? = some result' → result'.code = 0 ∧ result'.stdout = lines) ∧
            (steps.filter fun s => !s.isPoll).length ≤ 6 * references.length + 11 ∧
            ∃ more v', v.run more = some v' ∧ v'.result?.isSome) ∧
          ∃ steps v, start.run steps = some v ∧ v.result? = some result := by
  intro result
  have hresult : result = ofArguments loaded readFile now (.options ⟨path, true⟩) := by
    show RunResult.of args environment entries readFile now = _
    rw [RunResult.of, henv, hargs]
  rw [ofArguments, hfile] at hresult
  refine ⟨?_, ?_⟩
  · intro hbroken
    obtain ⟨message, hmake⟩ : ∃ message, Plan.make loaded.value? path (some text) now =
        .error message := Plan.make_error hsettings hbroken
    rw [hmake] at hresult
    rw [hresult]
    exact ⟨rfl, rfl⟩
  · intro fixture hfixture hready references r alone start
    let plan : Plan := ⟨settings, fixture.records, references⟩
    have hmake : Plan.make loaded.value? path (some text) now = .ok plan :=
      Plan.make_eq hsettings hfixture hready
    rw [hmake] at hresult
    dsimp only at hresult
    refine ⟨Queue.sorted references, Queue.sorted_perm _, Queue.sorted_ascending _, ?_⟩
    intro contexts
    refine ⟨plan.expected, List.length_mapIdx, ?_, ?_⟩
    · exact fun k line c => plan.handsOver_expected
    rw [hresult, ← plan.output_eq]
    refine ⟨rfl, rfl, ?_, plan.exists_run_ended⟩
    rw [plan.output_eq]
    intro steps v hr
    exact ⟨Plan.lines_prefix hr, fun _ => Plan.result_eq hr, Plan.work_le hr, Plan.exists_end hr⟩

/-- A fixture whose ready texts name three tasks, the last one first; the one in the middle is not
there. -/
def gapFixture : Fixture :=
  ⟨Loop.plainRecords [⟨7⟩, ⟨9⟩], ["2_1_2_9_0_", "2_1_2_8_0_", "2_1_2_7_0_"]⟩

/-- A fixture with a ready text that is no reference. -/
def brokenFixture : Fixture :=
  ⟨.empty, ["2_1_2_7_0_", "7"]⟩

/-- With a text that is no fixture, or a ready text that is no reference, the command prints nothing.
Of three references it prints the two that have a context, with the group of an environment file above
the working directory. -/
theorem prints_in_order_gap :
    let readFile := fun text path : String => if path = "f.json" then some text else none
    let run := fun text => RunResult.of ["--fixture", "f.json", "--exit-when-idle"] []
      [.absent, .file "RELAY_DEFAULT_WORKER_GROUP=etl"] (readFile text) fun _ => .epoch
    let shown := fun line => (Json.Document.read? line >>= Request.read).bind fun request =>
      request.command.context?.map fun c => (request.command.serial, request.workerGroup, c.taskId)
    ((run "[").code = 1 ∧ (run "[").stdout = []) ∧
    ((run brokenFixture.document.print).code = 1 ∧
      (run brokenFixture.document.print).stdout = []) ∧
    (run gapFixture.document.print).code = 0 ∧
      (run gapFixture.document.print).stdout.map shown =
        [some (1, "etl", ⟨7⟩), some (2, "etl", ⟨9⟩)] := by
  intro readFile run shown
  have hargs : Arguments.parse ["--fixture", "f.json", "--exit-when-idle"] =
      .options ⟨"f.json", true⟩ := Arguments.parse_exitWhenIdle (by decide) (by decide)
  have henv : withEnvFile []
      (EnvFile.find? [.absent, .file "RELAY_DEFAULT_WORKER_GROUP=etl"]) =
        some [("RELAY_DEFAULT_WORKER_GROUP", "etl")] := by decide +kernel
  have hsettings : Settings.ofLookup
      (Variables.value? [("RELAY_DEFAULT_WORKER_GROUP", "etl")]) =
        .ok { Settings.standard with defaultWorkerGroup := "etl" } := by decide +kernel
  have hfile : ∀ text, readFile text "f.json" = some text := fun _ => rfl
  have hrun := fun text => prints_in_order (fun _ => .epoch) hargs henv hsettings (hfile text)
  have hof : ∀ text, RunResult.of ["--fixture", "f.json", "--exit-when-idle"] []
      [.absent, .file "RELAY_DEFAULT_WORKER_GROUP=etl"] (readFile text) (fun _ => .epoch) =
        run text := fun _ => rfl
  simp only [hof] at hrun
  -- the runs are not to be unfolded in what follows
  clear_value run
  refine ⟨(hrun _).1 (.inl (by decide +kernel)), (hrun _).1 (.inr ?_), ?_⟩
  · exact ⟨_, Fixture.read?_print _, "7", by decide, by decide +kernel⟩
  · have hready : ∀ raw ∈ gapFixture.ready, (Reference.read? raw).isSome := by decide +kernel
    obtain ⟨ordered, hperm, hsorted, lines, hlength, hlines, hcode, hstdout, -⟩ :=
      (hrun _).2 gapFixture gapFixture.read?_print hready
    have hlisted : (gapFixture.listed "etl" fun _ => .epoch).Perm
        ([⟨7⟩, ⟨8⟩, ⟨9⟩].map fun id => ⟨.standard, ⟨1⟩, .standard, id, .epoch, ""⟩) := by
      decide +kernel
    obtain rfl := Queue.eq_of_perm (hperm.trans hlisted) hsorted (by unfold Ascending; decide)
    generalize hcontexts : List.filterMap _ _ = contexts at hlength hlines
    have hshown : contexts.map (fun c => (c.taskId, c.workerGroup)) =
        [(⟨7⟩, "etl"), (⟨9⟩, "etl")] := by
      rw [← hcontexts]
      decide +kernel
    have hline : ∀ {line serial c}, HandsOver line serial c →
        shown line = some (serial, c.workerGroup, c.taskId) := by
      rintro line serial c ⟨-, request, hread, -, rfl, -, hbody, hgroup⟩
      simp only [shown, hread, Option.bind_some, hbody, Option.map_some, hgroup]
    obtain ⟨c, rest, rfl, hc, hrest⟩ := List.map_eq_cons_iff.1 hshown
    obtain ⟨c', rest, rfl, hc', hrest⟩ := List.map_eq_cons_iff.1 hrest
    obtain rfl := List.map_eq_nil_iff.1 hrest
    obtain ⟨line, line', rfl⟩ := List.length_eq_two.1 hlength
    refine ⟨hcode, ?_⟩
    rw [hstdout, List.map_cons, List.map_singleton, hline (hlines 0 line c rfl rfl),
      hline (hlines 1 line' c' rfl rfl)]
    rw [Prod.mk.injEq] at hc hc'
    rw [hc.1, hc.2, hc'.1, hc'.2]
    rfl

end RunResult

end Handoff
