import Handoff.Json.Value
import Handoff.Proofs.Json.Tokens
/-!
# Documents in text

Writing loses nothing: members in their order and names given twice, numbers of any size, strings
of any characters and even those that have no text.

* `separated_tokens`: the tokens of a document can be told apart in its text.
* `steps_tokens`: the tokens of a document are read as the document, in whatever it stands.
* `read?_print`: **every document is read from its text.**
* `le_toNat_of_mem_print`: its text holds no control character, and so is one line.
-/

namespace Handoff.Json.Document

/-! ## The tokens of a document -/

theorem separated_nil : Separated [] :=
  List.isChain_nil

theorem separated_singleton (t : Token) : Separated [t] :=
  List.isChain_singleton t

/-- A mark keeps apart what stands on both sides of it. -/
theorem separated_append_cons {ts us : List Token} (mark : Token) (hm : mark.isBare = false)
    (ht : Separated ts) (hu : Separated us) : Separated (ts ++ mark :: us) := by
  unfold Separated at *
  rw [List.isChain_append]
  refine ⟨ht, ?_, ?_⟩
  · cases us with
    | nil => exact List.isChain_singleton _
    | cons u us =>
      refine List.isChain_cons_cons.2 ⟨?_, hu⟩
      intro h
      rw [hm] at h
      cases h
  · intro t _ u hu _
    cases hu
    exact hm

theorem separated_cons {us : List Token} (mark : Token) (hm : mark.isBare = false)
    (hu : Separated us) : Separated (mark :: us) :=
  separated_append_cons mark hm separated_nil hu

mutual

/-- The tokens of a document are separated by marks. -/
theorem separated_tokens : ∀ d : Document, Separated d.tokens
  | .null => separated_singleton _
  | .bool _ => separated_singleton _
  | .number _ => separated_singleton _
  | .string _ => separated_singleton _
  | .array items => by
    have hitems := separated_itemTokens items
    exact separated_cons .openArray rfl (separated_append_cons .closeArray rfl hitems separated_nil)
  | .object members => by
    have hmembers := separated_memberTokens members
    exact separated_cons .openObject rfl
      (separated_append_cons .closeObject rfl hmembers separated_nil)

theorem separated_itemTokens : ∀ items : List Document, Separated (itemTokens items)
  | [] => separated_nil
  | [d] => by
    have hd := separated_tokens d
    simpa [itemTokens] using hd
  | d :: e :: ds => by
    have hd := separated_tokens d
    have hds := separated_itemTokens (e :: ds)
    exact separated_append_cons .comma rfl hd hds

theorem separated_memberTokens :
    ∀ members : List (Option String × Document), Separated (memberTokens members)
  | [] => separated_nil
  | [(name, d)] => by
    have hd := separated_tokens d
    have hmember := separated_cons (.string name) rfl (separated_cons .colon rfl hd)
    simpa [memberTokens] using hmember
  | (name, d) :: m :: ms => by
    have hd := separated_tokens d
    have hms := separated_memberTokens (m :: ms)
    have hrest := separated_append_cons .comma rfl hd hms
    exact separated_cons (.string name) rfl (separated_cons .colon rfl hrest)

end

/-! ## Reading the tokens -/

theorem steps_cons (e : Expecting) (t : Token) (ts : List Token) :
    steps e (t :: ts) = (step e t).bind fun e => steps e ts := by
  cases h : step e t <;> simp [steps, h]

theorem steps_singleton (e : Expecting) (t : Token) : steps e [t] = step e t := by
  cases h : step e t <;> simp [steps, h]

theorem steps_append (e : Expecting) (ts us : List Token) :
    steps e (ts ++ us) = (steps e ts).bind fun e => steps e us := by
  induction ts generalizing e with
  | nil => rfl
  | cons t ts ih =>
    rw [List.cons_append, steps_cons, steps_cons]
    cases step e t with
    | none => rfl
    | some e => exact ih e

/-- No document begins with the end of an array. -/
theorem tokens_eq_cons (d : Document) : ∃ t ts, d.tokens = t :: ts ∧ t ≠ .closeArray := by
  cases d with
  | array items => exact ⟨_, _, rfl, by decide⟩
  | object members => exact ⟨_, _, rfl, by decide⟩
  | _ => exact ⟨_, _, rfl, by simp⟩

/-- Where an array was just opened, a value is read as its first item. -/
theorem step_firstItem {t : Token} (h : t ≠ .closeArray) (stack : List Frame) :
    step (.firstItem stack) t = step (.value (.items [] :: stack)) t := by
  simp only [step, if_neg h]

mutual

/-- The tokens of a document are read as the document, in whatever it stands. -/
theorem steps_tokens : ∀ (d : Document) (stack : List Frame),
    steps (.value stack) d.tokens = complete d stack
  | .null, _ => steps_singleton _ _
  | .bool _, _ => steps_singleton _ _
  | .number _, _ => steps_singleton _ _
  | .string _, _ => steps_singleton _ _
  | .array items, stack => by
    have hitems := steps_itemTokens items [] stack
    show steps (.firstItem stack) (itemTokens items ++ [.closeArray]) = _
    cases items with
    | nil => exact steps_singleton (.firstItem stack) .closeArray
    | cons d ds =>
      -- the first token begins an item, so that the array may count as begun
      obtain ⟨t, ts, hts, ht⟩ := tokens_eq_cons d
      have hfirst : steps (.firstItem stack) (itemTokens (d :: ds)) =
          steps (.value (.items [] :: stack)) (itemTokens (d :: ds)) := by
        rw [itemTokens, hts, List.cons_append, steps_cons, steps_cons, step_firstItem ht]
      rw [steps_append, hfirst, hitems (by simp), Option.bind_some, steps_singleton]
      simp [step]
  | .object members, stack => by
    have hmembers := steps_memberTokens members true [] stack
    show steps (.name true [] stack) (memberTokens members ++ [.closeObject]) = _
    cases members with
    | nil => exact steps_singleton (.name true [] stack) .closeObject
    | cons m ms =>
      rw [steps_append, hmembers (by simp), Option.bind_some, steps_singleton]
      simp [step]

/-- The items of an array are read one after another. -/
theorem steps_itemTokens : ∀ (items done : List Document) (stack : List Frame), items ≠ [] →
    steps (.value (.items done :: stack)) (itemTokens items) =
      some (.next (.items (items.reverse ++ done) :: stack))
  | [], _, _, h => absurd rfl h
  | [d], done, stack, _ => by
    have hd := steps_tokens d (.items done :: stack)
    rw [itemTokens, List.isEmpty_nil, if_pos rfl, List.append_nil, hd]
    rfl
  | d :: e :: ds, done, stack, _ => by
    have hd := steps_tokens d (.items done :: stack)
    have hds := steps_itemTokens (e :: ds) (d :: done) stack (by simp)
    show steps _ (d.tokens ++ .comma :: itemTokens (e :: ds)) = _
    rw [steps_append, hd]
    show steps (.value (.items (d :: done) :: stack)) (itemTokens (e :: ds)) = _
    rw [hds]
    simp

/-- The members of an object are read one after another. -/
theorem steps_memberTokens : ∀ (members : List (Option String × Document)) (fresh : Bool)
    (done : List (Option String × Document)) (stack : List Frame), members ≠ [] →
    steps (.name fresh done stack) (memberTokens members) =
      some (.next (.members (members.reverse ++ done) :: stack))
  | [], _, _, _, h => absurd rfl h
  | [(name, d)], fresh, done, stack, _ => by
    have hd := steps_tokens d (.member done name :: stack)
    show steps (.value (.member done name :: stack)) (d.tokens ++ []) = _
    rw [List.append_nil, hd]
    rfl
  | (name, d) :: m :: ms, fresh, done, stack, _ => by
    have hd := steps_tokens d (.member done name :: stack)
    have hms := steps_memberTokens (m :: ms) false ((name, d) :: done) stack (by simp)
    show steps (.value (.member done name :: stack))
      (d.tokens ++ .comma :: memberTokens (m :: ms)) = _
    rw [steps_append, hd]
    show steps (.name false ((name, d) :: done) stack) (memberTokens (m :: ms)) = _
    rw [hms]
    simp

end

theorem ofTokens?_tokens (d : Document) : ofTokens? d.tokens = some d := by
  unfold ofTokens?
  rw [steps_tokens]
  rfl

theorem readChars?_printChars (d : Document) : readChars? d.printChars = some d := by
  unfold readChars? printChars
  rw [tokens?_text (separated_tokens d)]
  exact ofTokens?_tokens d

/-- **Every document is read from its text.** -/
theorem read?_print (d : Document) : read? d.print = some d := by
  unfold read? print
  rw [String.toList_ofList]
  exact readChars?_printChars d

/-- No control character stands in the text of a document, so that it is one line. -/
theorem le_toNat_of_mem_print {d : Document} {c : Char} (h : c ∈ d.print.toList) :
    32 ≤ c.toNat := by
  rw [print, String.toList_ofList, printChars, List.mem_flatMap] at h
  obtain ⟨t, -, hc⟩ := h
  exact Token.le_toNat_of_mem_text hc

end Handoff.Json.Document
