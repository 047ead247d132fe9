import Handoff.Proofs.TaskNode.Text
/-!
# Parameters as a value and as a text

The parameters of a node are stored as a value, or as a string that holds the text of that value.

* `TaskNode.inText`: the node with a text in the place of its parameters.
* `TaskNode.lawful_of_ofText?`: what an accepted node carries is a lawful value with room around it,
  so that it can be written as a text and read from it.
* `Parameters.ofValue?_null_eq_iff`: the task types to which `null` and an empty object are alike.
* `TaskNode.forms_agree_iff`: **both ways of storing the parameters lead to the same outcome**, unless
  they are `null` and the task type tells `null` from an empty object: only the value counts as one,
  its text does not.
-/

namespace Handoff

open Json

/-! ## Outcomes -/

namespace Resolver

variable {α : Type} {fault : Fault} {a b : Option α}

/-- What was needed, or that it was missing, can be told from the outcome. -/
theorem need_inj (h : need fault a = need fault b) : a = b := by
  have hexec := congrArg
    (fun x => (x.exec (.fresh (.ofSnapshot ⟨[], [], [], [], [], [], [], []⟩) fun _ => none)).1) h
  cases a with
  | none =>
    cases b with
    | none => rfl
    | some b => cases hexec
  | some a =>
    cases b with
    | none => cases hexec
    | some b =>
      cases hexec
      rfl

/-- The parameters of a node are read, or they are invalid. -/
theorem parametersOf_cases (type : TaskType) (n : TaskNode) :
    (∃ p, parametersOf type n = pure p) ∨ parametersOf type n = throw (.invalidParameters type) := by
  rw [parametersOf_eq]
  cases n.paramsValue?.bind (Parameters.ofValue? type) with
  | none => exact .inr rfl
  | some p => exact .inl ⟨p, rfl⟩

end Resolver

/-- The task types to which `null` and an empty object are alike: those that refuse both. The others
take an empty object, but refuse `null` or keep it. -/
theorem Parameters.ofValue?_null_eq_iff {type : TaskType} :
    ofValue? type .null = ofValue? type (.object []) ↔
      type = .sql ∨ type = .procedure ∨ type = .datax := by
  cases type with
  | sql | procedure | datax => exact ⟨fun _ => by simp, fun _ => rfl⟩
  | shell | python | spark | flink | mapReduce =>
    refine ⟨fun h => ?_, fun h => by simp at h⟩
    cases h
  | http | sqoop | dependent | subProcess | conditions =>
    refine ⟨fun h => ?_, fun h => by simp at h⟩
    cases h

namespace TaskNode

/-- The node with a text in the place of its parameters. -/
def inText (n : TaskNode) (t : String) : TaskNode :=
  { n with params := .string t }

variable {n : TaskNode} {s t : String} {d : Document}

/-- What an accepted node carries as parameters is a lawful value with room for the node around it. -/
theorem lawful_of_ofText? (h : ofText? s = some n) :
    n.params.Lawful ∧ n.params.document.depth < Document.maxDepth := by
  obtain ⟨d, -, hd⟩ := Option.bind_eq_some_iff.1 h
  obtain ⟨f, -, hf⟩ := Option.bind_eq_some_iff.1 hd
  obtain ⟨tag, -, hf⟩ := Option.bind_eq_some_iff.1 hf
  obtain ⟨name, -, hf⟩ := Option.bind_eq_some_iff.1 hf
  obtain ⟨v, hv, hf⟩ := Option.bind_eq_some_iff.1 hf
  obtain ⟨group, -, hn⟩ := Option.bind_eq_some_iff.1 hf
  cases hn
  show v.Lawful ∧ v.document.depth < Document.maxDepth
  unfold Fields.defaulted at hv
  split at hv
  · obtain ⟨hroom, hvalue⟩ := Value.ofNested?_eq_some_iff.1 hv
    have hdepth := Value.depth_document_le hvalue
    exact ⟨Value.lawful_of_ofDocument? hvalue, by omega⟩
  · cases hv
    exact ⟨trivial, by decide⟩

/-- A node that carries such a value is read from its own text. -/
theorem ofText?_document (hlawful : n.params.Lawful)
    (hdepth : n.params.document.depth < Document.maxDepth) : ofText? n.document.print = some n := by
  have hv : Value.ofNested? 1 n.params.document = some n.params :=
    Value.ofNested?_eq_some_iff.2 ⟨hdepth, Value.ofDocument?_document hlawful⟩
  exact ofText?_print hv (Value.unrepeated_document hlawful) (Document.reordered_refl _)

/-- The text in the place of the parameters is read as it is. -/
theorem ofText?_inText (n : TaskNode) (t : String) (h : (n.inText t).document.Reordered d) :
    ofText? d.print = some (n.inText t) := by
  have hv : Value.ofNested? 1 (.text t) = some (.string t) := rfl
  exact ofText?_print hv (Document.unrepeated_text t) h

/-- A text counts as the value it stands for. -/
theorem paramsValue?_inText (n : TaskNode) (t : String) :
    (n.inText t).paramsValue? = Value.read? t :=
  rfl

/-- **Both ways of storing parameters lead to the same outcome**, unless they are `null` and the task
type tells `null` from an empty object. Whatever value an accepted node carries that is not a string
has a text, the members of its objects being written in any order; with any text of the value in its
place the node is accepted too. -/
theorem forms_agree_iff (h : ofText? s = some n) (hs : ∀ u, n.params ≠ .string u) (type : TaskType) :
    (∀ e, n.params.document.Reordered e → Value.read? e.print = some n.params) ∧
    ∀ t, Value.read? t = some n.params →
      (∀ d, (n.inText t).document.Reordered d → ofText? d.print = some (n.inText t)) ∧
      ((∃ p, Resolver.parametersOf type n = pure p) ∨
        Resolver.parametersOf type n = throw (.invalidParameters type)) ∧
      (Resolver.parametersOf type (n.inText t) = Resolver.parametersOf type n ↔
        n.params ≠ .null ∨ type = .sql ∨ type = .procedure ∨ type = .datax) := by
  obtain ⟨hlawful, hdepth⟩ := lawful_of_ofText? h
  refine ⟨fun e he => Value.read?_print hlawful (Nat.le_of_lt hdepth) he, ?_⟩
  intro t ht
  refine ⟨fun d hd => ofText?_inText n t hd, Resolver.parametersOf_cases type n, ?_⟩
  have htext : (n.inText t).paramsValue? = some n.params := ht
  by_cases hnull : n.params = .null
  · -- only here the two ways differ: the value counts as an empty object, and its text does not
    have hvalue : n.paramsValue? = some (.object []) := by
      unfold paramsValue?
      rw [hnull]
    rw [hnull] at htext
    simp only [hnull, ne_eq, not_true, false_or]
    rw [← Parameters.ofValue?_null_eq_iff, Resolver.parametersOf_eq, Resolver.parametersOf_eq,
      htext, hvalue, Option.bind_some, Option.bind_some]
    exact ⟨Resolver.need_inj, congrArg _⟩
  · have hinline : n.params.Inline := by
      cases hparams : n.params with
      | null => exact hnull hparams
      | string u => exact hs u hparams
      | bool | number | array | object => trivial
    have hsame : Resolver.parametersOf type (n.inText t) = Resolver.parametersOf type n := by
      rw [Resolver.parametersOf_eq, Resolver.parametersOf_eq, htext, paramsValue?_of_inline hinline]
    exact ⟨fun _ => .inl hnull, fun _ => hsame⟩

/-- A script with quotation marks in it, which its text shows escaped, and the text of the node once
more. -/
theorem forms_agree_script :
    let n : TaskNode :=
      ⟨"SHELL", "count", .object [("rawScript", .string "echo \"hi\"")], some "default"⟩
    let t := n.params.document.print
    (ofText? n.document.print = some n ∧ Value.read? t = some n.params) ∧
      ofText? (n.inText t).document.print = some (n.inText t) ∧
      Resolver.parametersOf .shell n = pure (.shell ⟨"echo \"hi\"", []⟩) ∧
      Resolver.parametersOf .shell (n.inText t) = Resolver.parametersOf .shell n := by
  intro n t
  have hlawful : n.params.Lawful := ⟨List.pairwise_singleton _ _, trivial, trivial⟩
  have hn : ofText? n.document.print = some n := ofText?_document hlawful (by decide)
  obtain ⟨htext, hforms⟩ := forms_agree_iff hn (fun u => by rintro ⟨⟩) .shell
  have ht : Value.read? t = some n.params := htext _ (Document.reordered_refl _)
  obtain ⟨haccepted, -, hagree⟩ := hforms t ht
  exact ⟨⟨hn, ht⟩, haccepted _ (Document.reordered_refl _), rfl, hagree.2 (.inl (by rintro ⟨⟩))⟩

/-- **A text of `null` is not taken as `null` is**: a script with no parameters is an empty one, and with
their text it is refused. -/
theorem null_in_text_refused : ¬ ∀ (s : String) (n : TaskNode) (type : TaskType) (t : String),
    ofText? s = some n → (∀ u, n.params ≠ .string u) → Value.read? t = some n.params →
    Resolver.parametersOf type (n.inText t) = Resolver.parametersOf type n := by
  intro h
  let n : TaskNode := ⟨"SHELL", "n", .null, none⟩
  have hn : ofText? n.document.print = some n := ofText?_document trivial (by decide)
  have hprint : Document.null.print = "null" := by decide
  have hnull : Value.read? "null" = some .null := by
    rw [← hprint]
    have hlawful : Value.null.Lawful := trivial
    exact Value.read?_print hlawful (by decide) (Document.reordered_refl _)
  have hsame := h _ n .shell "null" hn (fun u => by rintro ⟨⟩) hnull
  -- the node itself is an empty script, and with the text there are no parameters
  have hinline : Resolver.parametersOf .shell n =
      Resolver.need (.invalidParameters .shell) (some (.shell ⟨"", []⟩)) := rfl
  have htext : Resolver.parametersOf .shell (n.inText "null") =
      Resolver.need (.invalidParameters .shell) none := by
    rw [Resolver.parametersOf_eq, paramsValue?_inText, hnull]
    rfl
  rw [hinline, htext] at hsame
  cases Resolver.need_inj hsame

end TaskNode

end Handoff
