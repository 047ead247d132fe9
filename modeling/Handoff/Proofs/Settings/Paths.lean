import Handoff.Proofs.Text.Decimal
import Handoff.Proofs.Text.Split
import Handoff.Settings
/-!
# The directories of tasks

A task runs in a directory of its own, four names below the base directory, whatever text the base
directory is.

* `Settings.IsName`: a name of its own within a path; `Settings.gap`: what stands in front of it.
* `Settings.foldl_below`: the text of a path with names put below it one after another.
* `Settings.components_foldl_below`: **its components are those of the path, and then the names.**
* `Settings.executePath_unshared`: different tasks have different directories, each of them exactly
  four names below the base directory.
-/

namespace Handoff.Settings

open Text

/-! ## Names below a path -/

/-- A name that leads one step down: it is not cut in two, and it leads neither nowhere nor up. -/
structure IsName (name : List Char) : Prop where
  ne_nil : name ≠ []
  ne_dot : name ≠ ['.']
  ne_dots : name ≠ ['.', '.']
  noSlash : '/' ∉ name

/-- What stands between a path and a name below it. -/
def gap (path : List Char) : List Char :=
  if path = [] ∨ path.getLast? = some '/' then [] else ['/']

variable {path name : List Char} {names : List (List Char)}

theorem below_eq (path name : List Char) : below path name = path ++ gap path ++ name := by
  unfold below gap
  split
  · rw [List.append_nil]
  · rw [List.append_assoc, List.singleton_append]

/-- Behind a name there has to be a slash. -/
theorem gap_append (h : IsName name) (path : List Char) : gap (path ++ name) = ['/'] := by
  unfold gap
  refine if_neg ?_
  rintro (hnil | hslash)
  · exact h.ne_nil (List.append_eq_nil_iff.1 hnil).2
  · rw [List.getLast?_append, Option.or_of_isSome (List.getLast?_isSome.2 h.ne_nil)] at hslash
    exact h.noSlash (List.mem_of_getLast? hslash)

/-- Names that are put below a path one after another have slashes between them. -/
theorem foldl_below (hne : names ≠ []) (h : ∀ name ∈ names, IsName name) (path : List Char) :
    names.foldl below path = path ++ gap path ++ join '/' names := by
  induction names generalizing path with
  | nil => exact absurd rfl hne
  | cons name names ih =>
    rw [List.foldl_cons, below_eq]
    cases names with
    | nil => rfl
    | cons next names =>
      have hnext : ∀ n ∈ next :: names, IsName n := fun n hn => h n (List.mem_cons_of_mem _ hn)
      rw [ih (List.cons_ne_nil next names) hnext, gap_append (h name List.mem_cons_self),
        join_cons (List.cons_ne_nil next names)]
      simp only [List.append_assoc, List.singleton_append]

/-! ## Components -/

/-- The components of a path by the parts between its slashes. -/
theorem components_of_cons {first : List Char} {rest : List (List Char)}
    (h : splitAll '/' path = first :: rest) :
    components path = (decide (first = [] ∧ rest ≠ []),
      (if first = ['.'] then [['.']] else []) ++
        (first :: rest).filter fun name => !(name = [] || name = ['.'])) := by
  by_cases hdot : first = ['.']
  · subst hdot
    simp [components, h]
  · rw [if_neg hdot, List.nil_append]
    unfold components
    rw [h]
    dsimp only
    split
    · rename_i heq
      cases heq
      simp
    · rename_i heq
      cases heq
      exact absurd rfl hdot
    · rename_i hroot _
      have hrest : first = [] → rest = [] := by
        rintro rfl
        cases rest with
        | nil => rfl
        | cons part parts => exact (hroot part parts rfl).elim
      simpa using hrest

/-- Names are kept as components. -/
theorem filter_names (h : ∀ name ∈ names, IsName name) :
    names.filter (fun name => !(name = [] || name = ['.'])) = names := by
  refine List.filter_eq_self.2 fun name hname => ?_
  simp [(h name hname).ne_nil, (h name hname).ne_dot]

/-- Where a path goes on with names, its components go on with them; an empty part at the end of the
path does not count. -/
theorem components_of_append {longer first : List Char} {rest last : List (List Char)}
    (hpath : splitAll '/' path = first :: rest ++ last) (hlast : last = [] ∨ last = [[]])
    (hfirst : first = [] → rest ++ last ≠ [])
    (hlonger : splitAll '/' longer = first :: rest ++ names) (hne : names ≠ [])
    (h : ∀ name ∈ names, IsName name) :
    components longer = ((components path).1, (components path).2 ++ names) := by
  have hdropped : last.filter (fun name => !(name = [] || name = ['.'])) = [] := by
    rcases hlast with rfl | rfl <;> rfl
  rw [List.cons_append] at hpath hlonger
  rw [components_of_cons hpath, components_of_cons hlonger, ← List.cons_append, List.filter_append,
    filter_names h, ← List.cons_append, List.filter_append, hdropped, List.append_nil,
    List.append_assoc]
  have hroot : (first = [] ∧ rest ++ names ≠ []) ↔ (first = [] ∧ rest ++ last ≠ []) :=
    ⟨fun hr => ⟨hr.1, hfirst hr.1⟩, fun hr => ⟨hr.1, by simp [hne]⟩⟩
  rw [decide_eq_decide.2 hroot]

/-- **Names that are put below a path are its last components.** -/
theorem components_foldl_below (hne : names ≠ []) (h : ∀ name ∈ names, IsName name)
    (path : List Char) :
    components (names.foldl below path) = ((components path).1, (components path).2 ++ names) := by
  have hsplit : splitAll '/' (join '/' names) = names :=
    splitAll_join hne fun name hname => (h name hname).noSlash
  rw [foldl_below hne h]
  by_cases hempty : path = []
  · -- a relative path, with nothing in front of the names
    subst hempty
    obtain ⟨name, names, rfl⟩ := List.exists_cons_of_ne_nil hne
    have hname : IsName name := h name List.mem_cons_self
    have hgap : gap [] = [] := if_pos (.inl rfl)
    rw [hgap, List.append_nil, List.nil_append, components_of_cons hsplit, filter_names h]
    simp [hname.ne_nil, hname.ne_dot, components, splitAll]
  · by_cases hslash : path.getLast? = some '/'
    · obtain ⟨cs, rfl⟩ := List.getLast?_eq_some_iff.1 hslash
      obtain ⟨first, rest, hcs⟩ := List.exists_cons_of_ne_nil (splitAll_ne_nil '/' cs)
      have hgap : gap (cs ++ ['/']) = [] := if_pos (.inr hslash)
      -- the empty part behind the last slash gives way to the names
      have hpath : splitAll '/' (cs ++ ['/']) = first :: rest ++ [[]] := by
        rw [splitAll_append, hcs]
        rfl
      refine components_of_append hpath (.inr rfl) (by simp) ?_ hne h
      rw [hgap, List.append_nil, List.append_assoc, List.singleton_append, splitAll_append, hcs,
        hsplit]
    · obtain ⟨first, rest, hpath⟩ := List.exists_cons_of_ne_nil (splitAll_ne_nil '/' path)
      have hgap : gap path = ['/'] := if_neg (by simp [hempty, hslash])
      refine components_of_append (hpath.trans (List.append_nil _).symm) (.inl rfl) ?_ ?_ hne h
      · rintro rfl hrest
        rw [List.append_nil] at hrest
        subst hrest
        exact hempty ((join_splitAll '/' path).symm.trans (congrArg (join '/') hpath))
      · rw [hgap, List.append_assoc, List.singleton_append, splitAll_append, hpath, hsplit]

/-! ## Directories -/

/-- The digits of an id are a name of its own. -/
theorem isName_digits {kind : IdKind} (id : Id kind) : IsName id.digits.toList := by
  have hdot : '.' ∉ id.digits.toList := notMem_showInt (by decide) (by decide)
  refine ⟨fun hnil => ?_, fun h => hdot (by simp [h]), fun h => hdot (by simp [h]),
    notMem_showInt (by decide) (by decide)⟩
  -- nothing can be read from an empty text
  have hread := Id.ofText_digits id
  rw [hnil] at hread
  cases hread

/-- The names of a task's directory below the base directory. -/
def directoryNames (project : ProjectId) (definition : DefinitionId) (process : ProcessId)
    (task : TaskId) : List (List Char) :=
  [project.digits.toList, definition.digits.toList, process.digits.toList, task.digits.toList]

variable {project project' : ProjectId} {definition definition' : DefinitionId}
  {process process' : ProcessId} {task task' : TaskId}

theorem isName_of_mem_directoryNames (h : name ∈ directoryNames project definition process task) :
    IsName name := by
  simp only [directoryNames, List.mem_cons, List.not_mem_nil, or_false] at h
  rcases h with rfl | rfl | rfl | rfl <;> exact isName_digits _

theorem directoryNames_inj :
    directoryNames project definition process task =
        directoryNames project' definition' process' task' ↔
      project = project' ∧ definition = definition' ∧ process = process' ∧ task = task' := by
  simp only [directoryNames, List.cons.injEq, String.toList_inj, Id.digits_inj, and_true]

theorem toList_executePath (s : Settings) (project : ProjectId) (definition : DefinitionId)
    (process : ProcessId) (task : TaskId) :
    (s.executePath project definition process task).toList =
      (directoryNames project definition process task).foldl below s.execBaseDir.toList := by
  unfold executePath
  rw [String.toList_ofList]
  rfl

theorem components_executePath (s : Settings) (project : ProjectId) (definition : DefinitionId)
    (process : ProcessId) (task : TaskId) :
    components (s.executePath project definition process task).toList =
      ((components s.execBaseDir.toList).1,
        (components s.execBaseDir.toList).2 ++ directoryNames project definition process task) := by
  rw [toList_executePath]
  exact components_foldl_below (List.cons_ne_nil _ _) (fun _ => isName_of_mem_directoryNames) _

theorem components_executePath_inj (s : Settings) :
    components (s.executePath project definition process task).toList =
        components (s.executePath project' definition' process' task').toList ↔
      project = project' ∧ definition = definition' ∧ process = process' ∧ task = task' := by
  rw [components_executePath, components_executePath, Prod.mk.injEq, List.append_cancel_left_eq,
    directoryNames_inj]
  exact and_iff_right rfl

/-- **Different tasks have different directories, below the base directory**, whatever text the base
directory is. The path of a directory is the base directory and then four ids, with slashes between
them; its components are those of the base directory and then the four ids. So neither two paths are
the same nor do two of them lead to the same place, unless all four ids are the same. -/
theorem executePath_unshared (s : Settings) (project project' : ProjectId)
    (definition definition' : DefinitionId) (process process' : ProcessId) (task task' : TaskId) :
    (s.executePath project definition process task =
        s.executePath project' definition' process' task' ↔
      project = project' ∧ definition = definition' ∧ process = process' ∧ task = task') ∧
    (components (s.executePath project definition process task).toList =
        components (s.executePath project' definition' process' task').toList ↔
      project = project' ∧ definition = definition' ∧ process = process' ∧ task = task') ∧
    (s.executePath project definition process task).toList =
      s.execBaseDir.toList ++ gap s.execBaseDir.toList ++
        join '/' (directoryNames project definition process task) ∧
    components (s.executePath project definition process task).toList =
      ((components s.execBaseDir.toList).1,
        (components s.execBaseDir.toList).2 ++ directoryNames project definition process task) ∧
    ∀ name ∈ directoryNames project definition process task, IsName name := by
  refine ⟨⟨fun h => ?_, ?_⟩, components_executePath_inj s, ?_, components_executePath s _ _ _ _,
    fun _ => isName_of_mem_directoryNames⟩
  · exact (components_executePath_inj s).1 (congrArg (components ∘ String.toList) h)
  · rintro ⟨rfl, rfl, rfl, rfl⟩
    rfl
  · rw [toList_executePath]
    exact foldl_below (List.cons_ne_nil _ _) (fun _ => isName_of_mem_directoryNames) _

/-- No slash is put behind one that is there already, and none in front of a relative path. -/
example : executePath ⟨"/data//", .lenient, ""⟩ ⟨1⟩ ⟨-2⟩ ⟨3⟩ ⟨4⟩ = "/data//1/-2/3/4" ∧
    executePath ⟨"", .lenient, ""⟩ ⟨1⟩ ⟨-2⟩ ⟨3⟩ ⟨4⟩ = "1/-2/3/4" := by decide

end Handoff.Settings
