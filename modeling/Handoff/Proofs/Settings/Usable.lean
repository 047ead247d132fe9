import Handoff.Proofs.Resolution.Contexts
import Handoff.Proofs.Resolution.States
import Handoff.Proofs.Text.Trim
/-!
# Usable settings

Whatever is looked up, the settings that come of it can be worked with: there is a directory to run
tasks under, and a group to hand them to. So every request that a dispatcher gets names a worker
group.

* `Settings.Usable`: what settings have to be like; `Settings.Given`: which values they have;
  `Settings.IsWord`: how a policy may be spelled.
* `Settings.usable_of_ofLookup`, `Settings.ofLookup_congr`, `Settings.exists_ofLookup_iff`: settings
  are usable; blank values count as absent; and only a policy that is none makes them fail.
* `Desk.Grouped`: every new request names a worker group; `grouped_consumeAll`, `Loop.grouped_run`:
  so it is after iterations one after another, and along the run of a loop.
* `Settings.ofLookup_usable`: **all of this, for every look-up.**
-/

namespace Handoff

open Text

/-! ## Settings -/

namespace Settings

/-- A base directory that is more than blank space, and a worker group that has a name, without blank
space around it. -/
structure Usable (s : Settings) : Prop where
  baseDir : ∃ c ∈ s.execBaseDir.toList, isBlank c = false
  group : s.defaultWorkerGroup ≠ ""
  groupStart : ∀ c, s.defaultWorkerGroup.toList.head? = some c → isBlank c = false
  groupEnd : ∀ c, s.defaultWorkerGroup.toList.getLast? = some c → isBlank c = false

/-- There is no value for the key, or a blank one. -/
def Unset (lookup : String → Option String) (key : String) : Prop :=
  ∀ value, lookup key = some value → blank value = true

/-- A text is a word, but for blank space around it and for capital letters, as far as they are
ASCII. -/
def IsWord (raw word : String) : Prop :=
  ∃ body, Stripped raw.toList body ∧ body.map Char.toLower = word.toList

/-- Each of the settings is what its key gives, or the standard one where the key is not set. -/
structure Given (lookup : String → Option String) (s : Settings) : Prop where
  baseDir : ∀ value, lookup baseDirKey = some value → blank value = false → s.execBaseDir = value
  policy : ∀ value, lookup policyKey = some value → blank value = false →
    IsWord value s.resourcePolicy.name
  group : ∀ value, lookup workerGroupKey = some value → blank value = false →
    s.defaultWorkerGroup = trimmed value
  baseDirUnset : Unset lookup baseDirKey → s.execBaseDir = standard.execBaseDir
  policyUnset : Unset lookup policyKey → s.resourcePolicy = standard.resourcePolicy
  groupUnset : Unset lookup workerGroupKey → s.defaultWorkerGroup = standard.defaultWorkerGroup

variable {lookup lookup' : String → Option String} {key : String} {s : Settings}

theorem lookup?_eq_none_iff : lookup? lookup key = none ↔ Unset lookup key := by
  simp [lookup?, Unset, Option.filter_eq_none_iff]

theorem lookup?_eq_some_iff {value : String} :
    lookup? lookup key = some value ↔ lookup key = some value ∧ blank value = false := by
  simp [lookup?, Option.filter_eq_some_iff]

theorem lookup?_congr (h : lookup' key = lookup key ∨ Unset lookup' key ∧ Unset lookup key) :
    lookup? lookup' key = lookup? lookup key := by
  rcases h with h | ⟨h', h⟩
  · rw [lookup?, lookup?, h]
  · rw [lookup?_eq_none_iff.2 h', lookup?_eq_none_iff.2 h]

theorem lowered_eq_iff {raw word : String} :
    ResourcePolicy.lowered raw = word ↔ IsWord raw word := by
  unfold ResourcePolicy.lowered
  constructor
  · rintro rfl
    exact ⟨_, stripped_trim _, String.toList_ofList.symm⟩
  · rintro ⟨body, hbody, hword⟩
    rw [trim_eq_iff.2 hbody, hword, String.ofList_toList]

/-- A policy is known by its name. -/
theorem ofText_eq_ok_iff {raw : String} {policy : ResourcePolicy} :
    ResourcePolicy.ofText raw = .ok policy ↔ IsWord raw policy.name := by
  rw [← lowered_eq_iff]
  unfold ResourcePolicy.ofText
  split
  · rename_i h
    rw [h]
    cases policy <;> decide
  · rename_i hlenient
    split
    · rename_i h
      rw [h]
      cases policy <;> decide
    · rename_i hstrict
      cases policy <;> simp [hlenient, hstrict]

/-- The policy that a look-up gives. -/
def policyOf (lookup : String → Option String) : Except Fault ResourcePolicy :=
  match lookup? lookup policyKey with
  | some raw => ResourcePolicy.ofText raw
  | none => .ok .standard

/-- Each of the settings comes from its own key, and only that of the policy can make them fail. -/
theorem ofLookup_eq (lookup : String → Option String) :
    ofLookup lookup = (policyOf lookup).map fun policy => {
      execBaseDir := (lookup? lookup baseDirKey).getD standard.execBaseDir
      resourcePolicy := policy
      defaultWorkerGroup :=
        ((lookup? lookup workerGroupKey).map trimmed).getD standard.defaultWorkerGroup } := by
  unfold ofLookup policyOf
  cases lookup? lookup policyKey <;>
    simp only [Except.map, bind, Except.bind, pure, Except.pure]

theorem exists_policyOf_iff : (∃ policy, policyOf lookup = .ok policy) ↔ Unset lookup policyKey ∨
    ∃ raw, lookup policyKey = some raw ∧
      (IsWord raw "lenient" ∨ IsWord raw "strict") := by
  unfold policyOf
  cases hvalue : lookup? lookup policyKey with
  | none => simp [lookup?_eq_none_iff.1 hvalue]
  | some raw =>
    obtain ⟨hraw, hblank⟩ := lookup?_eq_some_iff.1 hvalue
    have hset : ¬Unset lookup policyKey := fun h => by simp [h raw hraw] at hblank
    simp only [hset, hraw, false_or, Option.some.injEq, exists_eq_left', ofText_eq_ok_iff]
    constructor
    · rintro ⟨policy, h⟩
      cases policy with
      | lenient => exact .inl h
      | strict => exact .inr h
    · rintro (h | h)
      · exact ⟨.lenient, h⟩
      · exact ⟨.strict, h⟩

/-- Only a policy that is none makes the settings fail. -/
theorem exists_ofLookup_iff : (∃ s, ofLookup lookup = .ok s) ↔ Unset lookup policyKey ∨
    ∃ raw, lookup policyKey = some raw ∧
      (IsWord raw "lenient" ∨ IsWord raw "strict") := by
  rw [← exists_policyOf_iff, ofLookup_eq]
  cases policyOf lookup <;> simp [Except.map]

/-- Blank values count as absent. -/
theorem ofLookup_congr
    (h : ∀ key, lookup' key = lookup key ∨ Unset lookup' key ∧ Unset lookup key) :
    ofLookup lookup' = ofLookup lookup := by
  rw [ofLookup_eq, ofLookup_eq, policyOf, policyOf, lookup?_congr (h policyKey),
    lookup?_congr (h baseDirKey), lookup?_congr (h workerGroupKey)]

/-- The settings that a look-up gives. -/
theorem eq_of_ofLookup (h : ofLookup lookup = .ok s) : ∃ policy, policyOf lookup = .ok policy ∧ s = {
      execBaseDir := (lookup? lookup baseDirKey).getD standard.execBaseDir
      resourcePolicy := policy
      defaultWorkerGroup :=
        ((lookup? lookup workerGroupKey).map trimmed).getD standard.defaultWorkerGroup } := by
  rw [ofLookup_eq] at h
  cases hpolicy : policyOf lookup with
  | error fault =>
    rw [hpolicy] at h
    cases h
  | ok policy =>
    rw [hpolicy] at h
    cases h
    exact ⟨policy, rfl, rfl⟩

theorem given_of_ofLookup (h : ofLookup lookup = .ok s) : s.Given lookup := by
  obtain ⟨policy, hpolicy, rfl⟩ := eq_of_ofLookup h
  constructor
  · intro value hvalue hblank
    rw [lookup?_eq_some_iff.2 ⟨hvalue, hblank⟩, Option.getD_some]
  · intro value hvalue hblank
    rw [policyOf, lookup?_eq_some_iff.2 ⟨hvalue, hblank⟩] at hpolicy
    exact ofText_eq_ok_iff.1 hpolicy
  · intro value hvalue hblank
    rw [lookup?_eq_some_iff.2 ⟨hvalue, hblank⟩, Option.map_some, Option.getD_some]
  · intro hunset
    rw [lookup?_eq_none_iff.2 hunset, Option.getD_none]
  · intro hunset
    rw [policyOf, lookup?_eq_none_iff.2 hunset] at hpolicy
    exact (Except.ok.inj hpolicy).symm
  · intro hunset
    rw [lookup?_eq_none_iff.2 hunset, Option.map_none, Option.getD_none]

/-- Settings that come of a look-up are usable. -/
theorem usable_of_ofLookup (h : ofLookup lookup = .ok s) : s.Usable := by
  obtain ⟨policy, -, rfl⟩ := eq_of_ofLookup h
  have hbase : ∃ c ∈ ((lookup? lookup baseDirKey).getD standard.execBaseDir).toList,
      isBlank c = false := by
    cases hvalue : lookup? lookup baseDirKey with
    | none => exact ⟨'t', by decide, by decide⟩
    | some value =>
      obtain ⟨-, hblank⟩ := lookup?_eq_some_iff.1 hvalue
      obtain ⟨c, hc, hnot⟩ := List.all_eq_false.1 hblank
      exact ⟨c, hc, by simpa using hnot⟩
  -- the standard group is a trimmed text like any other
  obtain ⟨value, hblank, hgroup⟩ : ∃ value, blank value = false ∧
      ((lookup? lookup workerGroupKey).map trimmed).getD standard.defaultWorkerGroup =
        trimmed value := by
    cases hvalue : lookup? lookup workerGroupKey with
    | none => exact ⟨"default", by decide, by decide⟩
    | some value => exact ⟨value, (lookup?_eq_some_iff.1 hvalue).2, rfl⟩
  rw [hgroup]
  have htext : (trimmed value).toList = trim value.toList := String.toList_ofList
  refine ⟨hbase, ?_, ?_, ?_⟩
  · intro hempty
    have hnil : trim value.toList = [] := htext.symm.trans (congrArg String.toList hempty)
    exact Bool.false_ne_true (hblank.symm.trans (trim_eq_nil.1 hnil))
  · intro c hc
    exact isBlank_head_trim (htext ▸ hc)
  · intro c hc
    exact isBlank_getLast_trim (htext ▸ hc)

end Settings

/-! ## Requests -/

/-- Every request that is new on the second desk names a worker group. -/
def Desk.Grouped (d d' : Desk) : Prop :=
  ∃ new, d'.requests = d.requests ++ new ∧ ∀ request ∈ new, request.workerGroup ≠ ""

section

variable {r : Resolver} {reference : Reference} {d d₁ d₂ : Desk} {request : Request}

theorem Desk.Grouped.of_eq (h : d₁.requests = d.requests) : d.Grouped d₁ :=
  ⟨[], h.trans (List.append_nil _).symm, by simp⟩

theorem Desk.Grouped.trans (h : d.Grouped d₁) (h' : d₁.Grouped d₂) : d.Grouped d₂ := by
  obtain ⟨new, hnew, hgroup⟩ := h
  obtain ⟨new', hnew', hgroup'⟩ := h'
  refine ⟨new ++ new', by rw [hnew', hnew, List.append_assoc], fun request hmem => ?_⟩
  rcases List.mem_append.1 hmem with hmem | hmem
  · exact hgroup request hmem
  · exact hgroup' request hmem

theorem chooseWorkerGroup_ne {default : String} (h : default ≠ "") (task node : Option String) :
    Resolver.chooseWorkerGroup task node default ≠ "" := by
  unfold Resolver.chooseWorkerGroup
  split
  · split
    · assumption
    · exact h
  · exact h

/-- Every context names a worker group. -/
theorem workerGroup_ne_of_exec (h : r.settings.defaultWorkerGroup ≠ "") {s s' : Session}
    {c : Context} (hc : (r.resolve reference).exec s = (.ok (some c), s')) : c.workerGroup ≠ "" := by
  obtain ⟨i, resources, relation, -, -, -, -, -, -, -, rfl⟩ := Resolver.context_of_exec hc
  exact chooseWorkerGroup_ne h _ _

theorem grouped_prepare (h : r.settings.defaultWorkerGroup ≠ "") (reference : Reference)
    (d : Desk) : d.Grouped (prepare r reference d).2 := by
  unfold prepare
  rcases hc : (r.resolve reference).exec d.session with ⟨fault | _ | c, s⟩
  · exact .of_eq rfl
  · exact .of_eq rfl
  · refine ⟨[.forWorker d.serial c], rfl, fun request hmem => ?_⟩
    rw [List.mem_singleton.1 hmem]
    exact workerGroup_ne_of_exec h hc

theorem grouped_consumeOne (h : r.settings.defaultWorkerGroup ≠ "") (reference : Reference)
    (d : Desk) : d.Grouped (consumeOne r reference d).2 := by
  have hprepare := grouped_prepare h reference d
  unfold consumeOne
  rcases hv : prepare r reference d with ⟨verdict | request, d'⟩ <;> rw [hv] at hprepare
  · exact hprepare
  · exact hprepare.trans (.of_eq Loop.conclude_requests)

theorem grouped_consumeAll (h : r.settings.defaultWorkerGroup ≠ "") (references : List Reference)
    (d : Desk) : d.Grouped (consumeAll r references d).2 := by
  induction references generalizing d with
  | nil => exact .of_eq rfl
  | cons reference rest ih => exact (grouped_consumeOne h reference d).trans (ih _)

end

namespace Loop

variable {l l' : Loop} {s : LoopStep} {ss : List LoopStep}

/-- A step makes a request at most where a reference is resolved. -/
theorem grouped_step (h : l.resolver.settings.defaultWorkerGroup ≠ "") (hs : l.step s = some l') :
    l.desk.Grouped l'.desk ∧ l'.resolver = l.resolver := by
  have hprepare : ∀ {reference prepared desk},
      prepare l.resolver reference l.desk = (prepared, desk) → l.desk.Grouped desk := by
    intro reference prepared desk hv
    have hdesk := grouped_prepare h reference l.desk
    rwa [hv] at hdesk
  cases Move.of_step hs with
  | resolve hp hv => exact ⟨(hprepare hv).trans (.of_eq finish_requests), finish_resolver⟩
  | resolveRequest hp hv => exact ⟨hprepare hv, rfl⟩
  | @reply reference request hp =>
    refine ⟨.of_eq ?_, (getReply_records l reference request).2.2⟩
    rw [getReply, finish_requests, conclude_requests]
  | trouble t => exact ⟨.of_eq failTake_requests, (failTake_records l t).2.2⟩
  | put | close | requestStop | dropHandle | begin | lookStop | look | heedRequest | heedDrop
  | take | takeClosed | goOn | release => exact ⟨.of_eq rfl, rfl⟩

theorem grouped_run (h : l.resolver.settings.defaultWorkerGroup ≠ "") (hr : l.run ss = some l') :
    l.desk.Grouped l'.desk := by
  induction ss generalizing l with
  | nil =>
    cases hr
    exact .of_eq rfl
  | cons s ss ih =>
    obtain ⟨l₁, hs, hr⟩ := Option.bind_eq_some_iff.1 hr
    obtain ⟨hstep, hresolver⟩ := grouped_step h hs
    exact hstep.trans (ih (hresolver ▸ h) hr)

end Loop

/-- **Whatever is looked up, the settings are usable, and every request names a worker group.** A
value that is blank counts as absent, and only a policy other than the two there are makes the
settings fail. -/
theorem Settings.ofLookup_usable (lookup : String → Option String) :
    (∀ settings, ofLookup lookup = .ok settings → settings.Usable ∧ settings.Given lookup ∧
      ∀ (registry : Registry) (d : Desk),
        (∀ references, d.Grouped (consumeAll ⟨registry, settings⟩ references d).2) ∧
        ∀ queue steps l, (Loop.spawn ⟨registry, settings⟩ queue d).run steps = some l →
          d.Grouped l.desk) ∧
    (∀ lookup', (∀ key, lookup' key = lookup key ∨ Unset lookup' key ∧ Unset lookup key) →
      ofLookup lookup' = ofLookup lookup) ∧
    ((∃ settings, ofLookup lookup = .ok settings) ↔ Unset lookup policyKey ∨
      ∃ raw, lookup policyKey = some raw ∧
        (IsWord raw "lenient" ∨ IsWord raw "strict")) := by
  refine ⟨fun settings h => ?_, fun _ => ofLookup_congr, exists_ofLookup_iff⟩
  have husable := usable_of_ofLookup h
  refine ⟨husable, given_of_ofLookup h, fun registry d => ⟨?_, ?_⟩⟩
  · exact fun references => grouped_consumeAll husable.group references d
  · exact fun queue steps l hrun => Loop.grouped_run husable.group hrun

end Handoff
