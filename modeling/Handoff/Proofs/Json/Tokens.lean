import Handoff.Json.Token
import Handoff.Proofs.Json.Numeral
import Mathlib.Data.List.Chain
/-!
# Cutting a printed text

Tokens that are printed without space between them are cut out of the text again, as long as no two
words or numbers stand side by side.

* `scan_quote`: **a string in quotes is read as it was**, whatever its characters.
* `tokens?_text`: **separated tokens are the tokens of their text.**
* `Token.le_toNat_of_mem_text`: the text of a token holds no control character.
-/

namespace Handoff.Json

open Text

/-- A token that ends only where another kind of character begins: a word or a number. -/
def Token.isBare : Token → Bool
  | .null => true
  | .bool _ => true
  | .number _ => true
  | _ => false

/-- No two words or numbers stand side by side. -/
def Separated (ts : List Token) : Prop :=
  ts.IsChain fun t u => t.isBare = true → u.isBare = false

/-! ## Words and numbers -/

/-- A character that stands inside a word or a number, or in its place is refused. -/
def Inner (c : Char) : Prop :=
  isSpace c = false ∧ c ≠ '"' ∧ punctuation? c = none

instance (c : Char) : Decidable (Inner c) :=
  inferInstanceAs (Decidable (_ ∧ _ ∧ _))

theorem scan_of_step {cursor cursor' : Cursor} {acc acc' : List Token} {c : Char}
    (h : cursor.step c acc = some (acc', cursor')) (cs : List Char) :
    scan cursor acc (c :: cs) = scan cursor' acc' cs := by
  cases cursor <;> simp only [scan, h]

/-- Inner characters are gathered in a run. -/
theorem scan_inner {run cs : List Char} (h : ∀ c ∈ cs, Inner c) (acc : List Token)
    (rest : List Char) :
    scan (.outside run) acc (cs ++ rest) = scan (.outside (cs.reverse ++ run)) acc rest := by
  induction cs generalizing run with
  | nil => rfl
  | cons c cs ih =>
    obtain ⟨hspace, hquote, hmark⟩ := h c (by simp)
    have hstep : (Cursor.outside run).step c acc = some (acc, .outside (c :: run)) := by
      simp [Cursor.step, hspace, hquote, hmark]
    rw [List.cons_append, scan_of_step hstep, ih fun d hd => h d (by simp [hd])]
    simp

/-- A quote and a mark end the run in front of them, and then mean the same after any run. -/
theorem scan_mark {c : Char} (h : c = '"' ∨ ∃ t, punctuation? c = some t) (run : List Char)
    (acc : List Token) (cs : List Char) :
    scan (.outside run) acc (c :: cs) =
      (finishRun run acc).bind fun acc => scan (.outside []) acc (c :: cs) := by
  have hstep : ∃ (add : List Token → List Token) (cursor : Cursor), ∀ run acc,
      (Cursor.outside run).step c acc = (finishRun run acc).map fun acc => (add acc, cursor) := by
    rcases h with rfl | ⟨t, ht⟩
    · exact ⟨id, .plain [], fun _ _ => rfl⟩
    · have hspace : isSpace c = false := by
        rw [← Bool.not_eq_true]
        intro hs
        simp only [isSpace, Bool.or_eq_true, decide_eq_true_eq] at hs
        rcases hs with ((rfl | rfl) | rfl) | rfl <;> cases ht
      have hquote : c ≠ '"' := by
        rintro rfl
        cases ht
      exact ⟨(t :: ·), .outside [], fun run acc => by simp [Cursor.step, hspace, hquote, ht]⟩
  obtain ⟨add, cursor, hstep⟩ := hstep
  cases hrun : finishRun run acc with
  | none => simp [scan, hstep, hrun]
  | some acc' =>
    have hempty : finishRun [] acc' = some acc' := rfl
    simp [scan, hstep, hrun, hempty]

/-! ## Strings -/

theorem hexDigit?_hexChar : ∀ n < 16, hexDigit? (hexChar n) = some n := by
  decide

/-- A character is read as it was, however it is escaped. -/
theorem scan_escape (c : Char) (units : List Nat) (acc : List Token) (rest : List Char) :
    scan (.plain units) acc (escape c ++ rest) = scan (.plain (c.toNat :: units)) acc rest := by
  unfold escape
  split
  · rename_i h
    subst h
    rfl
  rename_i hquote
  split
  · rename_i h
    subst h
    rfl
  rename_i hback
  split
  · rename_i h
    exact scan_of_step (by simp [Cursor.step, hquote, hback, Nat.not_lt.2 h]) rest
  rename_i hcontrol
  split
  · rename_i h
    rw [h]
    rfl
  split
  · rename_i h
    rw [h]
    rfl
  split
  · rename_i h
    rw [h]
    rfl
  split
  · rename_i h
    rw [h]
    rfl
  split
  · rename_i h
    rw [h]
    rfl
  -- all other control characters are written by their number
  have hhigh := hexDigit?_hexChar (c.toNat / 16) (by omega)
  have hlow := hexDigit?_hexChar (c.toNat % 16) (by omega)
  have hunit : (0 + c.toNat / 16) * 16 + c.toNat % 16 = c.toNat := by omega
  have hfirst : (Cursor.hex 2 0 units).step (hexChar (c.toNat / 16)) acc =
      some (acc, .hex 1 (0 + c.toNat / 16) units) := by
    simp [Cursor.step, hhigh]
  have hsecond : (Cursor.hex 1 (0 + c.toNat / 16) units).step (hexChar (c.toNat % 16)) acc =
      some (acc, .plain (c.toNat :: units)) := by
    simp only [Cursor.step, hlow, Option.map_some, if_true, Nat.le_refl, hunit]
  show scan (.hex 2 0 units) acc (hexChar (c.toNat / 16) :: hexChar (c.toNat % 16) :: rest) = _
  rw [scan_of_step hfirst, scan_of_step hsecond]

theorem scan_escapes (cs : List Char) (units : List Nat) (acc : List Token) (rest : List Char) :
    scan (.plain units) acc (cs.flatMap escape ++ rest) =
      scan (.plain ((cs.map Char.toNat).reverse ++ units)) acc rest := by
  induction cs generalizing units with
  | nil => rfl
  | cons c cs ih =>
    rw [List.flatMap_cons, List.append_assoc, scan_escape, ih]
    simp

/-- Characters are no halves of pairs, so that they are the text of their code points. -/
theorem unitsText?_toNat (cs : List Char) : unitsText? (cs.map Char.toNat) = some cs := by
  induction cs with
  | nil => rfl
  | cons c cs ih =>
    have hvalid : c.toNat < 0xD800 ∨ 0xDFFF < c.toNat := by
      rcases c.valid with h | h
      · exact .inl h
      · exact .inr h.1
    have hhigh : ¬ (0xD800 ≤ c.toNat ∧ c.toNat < 0xDC00) := by omega
    have hlow : ¬ (0xDC00 ≤ c.toNat ∧ c.toNat < 0xE000) := by omega
    rw [List.map_cons]
    unfold unitsText?
    rw [if_neg hhigh, if_neg hlow, ih, Char.ofNat_toNat]
    rfl

/-- **A string in quotes is read as it was.** -/
theorem scan_quote (s : String) (acc : List Token) (rest : List Char) :
    scan (.outside []) acc (quote s ++ rest) =
      scan (.outside []) (.string (some s) :: acc) rest := by
  have hstart : quote s ++ rest = '"' :: (s.toList.flatMap escape ++ '"' :: rest) := by
    simp [quote]
  have hopen : (Cursor.outside []).step '"' acc = some (acc, .plain []) := rfl
  have hclose : (Cursor.plain ((s.toList.map Char.toNat).reverse ++ [])).step '"' acc =
      some (.string (some s) :: acc, .outside []) := by
    simp only [Cursor.step, if_true, List.append_nil, List.reverse_reverse, unitsText?_toNat,
      Option.map_some, String.ofList_toList]
  rw [hstart, scan_of_step hopen, scan_escapes, scan_of_step hclose]

/-! ## Tokens -/

theorem inner_of_mem_text {n : Numeral} {c : Char} (h : c ∈ n.text) : Inner c := by
  rcases Numeral.mem_text h with h | rfl | rfl | rfl
  · obtain ⟨hl, hu⟩ := isDigit_iff.1 h
    have hl : 48 ≤ c.toNat := hl
    have hu : c.toNat ≤ 57 := hu
    have hne : ∀ d : Char, d.toNat < 48 ∨ 57 < d.toNat → c ≠ d := by
      rintro d hd rfl
      omega
    unfold Inner isSpace punctuation?
    simp [hne]
  · decide
  · decide
  · decide

/-- A word or a number is made of inner characters. -/
theorem inner_of_isBare {t : Token} (h : t.isBare = true) : ∀ c ∈ t.text, Inner c := by
  have hword : ∀ {w : List Char}, (w.all fun c => decide (Inner c)) = true → ∀ c ∈ w, Inner c :=
    fun hw c hc => of_decide_eq_true (List.all_eq_true.1 hw c hc)
  cases t with
  | null => exact hword (by decide)
  | bool b => cases b <;> exact hword (by decide)
  | number n => exact fun c hc => inner_of_mem_text hc
  | _ => cases h

theorem word?_text (n : Numeral) : word? n.text = some (.number n) := by
  have hne : ∀ (w : List Char) (c : Char), c ∈ w → c.isDigit = false → c ≠ '-' → c ≠ '.' → c ≠ 'e' →
      n.text ≠ w := by
    rintro w c hc hdigit hhyphen hpoint he rfl
    rcases Numeral.mem_text hc with h | h | h | h
    · rw [h] at hdigit
      cases hdigit
    · exact hhyphen h
    · exact hpoint h
    · exact he h
  have hnull := hne "null".toList 'n' (by decide) rfl (by decide) (by decide) (by decide)
  have htrue := hne "true".toList 't' (by decide) rfl (by decide) (by decide) (by decide)
  have hfalse := hne "false".toList 'f' (by decide) rfl (by decide) (by decide) (by decide)
  unfold word?
  rw [if_neg hnull, if_neg htrue, if_neg hfalse, Numeral.read?_text]
  rfl

/-- A run that spells a word or a number is that token. -/
theorem finishRun_text {t : Token} (h : t.isBare = true) (acc : List Token) :
    finishRun t.text.reverse acc = some (t :: acc) := by
  have hword : word? t.text = some t := by
    cases t with
    | null => decide
    | bool b => cases b <;> decide
    | number n => exact word?_text n
    | _ => cases h
  have hne : t.text.reverse ≠ [] := by
    cases t with
    | null => decide
    | bool b => cases b <;> decide
    | number n => exact fun hnil => n.text_ne_nil (List.reverse_eq_nil_iff.1 hnil)
    | _ => cases h
  unfold finishRun
  rw [if_neg hne, List.reverse_reverse, hword]
  rfl

/-- Any other token begins with a character that ends a run. -/
theorem text_eq_cons {t : Token} (h : t.isBare = false) :
    ∃ c cs, t.text = c :: cs ∧ (c = '"' ∨ ∃ u, punctuation? c = some u) := by
  cases t with
  | null => cases h
  | bool b => cases h
  | number n => cases h
  | string s =>
    cases s with
    | none => exact ⟨_, _, rfl, .inl rfl⟩
    | some s => exact ⟨_, _, rfl, .inl rfl⟩
  | _ => exact ⟨_, _, rfl, .inr ⟨_, rfl⟩⟩

/-- A token that is no word and no number is read, whatever follows it. -/
theorem scan_text {t : Token} (h : t.isBare = false) (acc : List Token) (rest : List Char) :
    scan (.outside []) acc (t.text ++ rest) = scan (.outside []) (t :: acc) rest := by
  cases t with
  | null => cases h
  | bool b => cases h
  | number n => cases h
  | string s =>
    cases s with
    | none => rfl
    | some s => exact scan_quote s acc rest
  | _ => rfl

theorem scan_tokens {ts : List Token} (h : Separated ts) (acc : List Token) :
    scan (.outside []) acc (ts.flatMap Token.text) = some (acc.reverse ++ ts) := by
  induction ts generalizing acc with
  | nil => simp [scan, finishRun]
  | cons t ts ih =>
    have hrest : Separated ts := h.tail
    have hgoal : some (acc.reverse ++ t :: ts) = some ((t :: acc).reverse ++ ts) := by simp
    rw [List.flatMap_cons, hgoal, ← ih hrest]
    cases hbare : t.isBare with
    | false => exact scan_text hbare acc _
    | true =>
      -- the run goes on to the next token or to the end
      rw [scan_inner (inner_of_isBare hbare), List.append_nil]
      cases ts with
      | nil =>
        show (finishRun t.text.reverse acc).map List.reverse = _
        rw [finishRun_text hbare]
        rfl
      | cons u us =>
        have hu : u.isBare = false := (List.isChain_cons_cons.1 h).1 hbare
        obtain ⟨c, cs, hcs, hc⟩ := text_eq_cons hu
        rw [List.flatMap_cons, hcs, List.cons_append, scan_mark hc, finishRun_text hbare]
        rfl

/-- **Separated tokens are the tokens of their text.** -/
theorem tokens?_text {ts : List Token} (h : Separated ts) :
    tokens? (ts.flatMap Token.text) = some ts :=
  scan_tokens h []

/-! ## Control characters -/

theorem le_toNat_hexChar : ∀ n < 16, 32 ≤ (hexChar n).toNat := by
  decide

theorem le_toNat_of_mem_escape {c d : Char} (h : d ∈ escape c) : 32 ≤ d.toNat := by
  have hshort : ∀ e : Char, 32 ≤ e.toNat → d ∈ ['\\', e] → 32 ≤ d.toNat := by
    intro e he hd
    rcases List.mem_pair.1 hd with rfl | rfl
    · decide
    · exact he
  unfold escape at h
  split at h
  · exact hshort _ (by decide) h
  split at h
  · exact hshort _ (by decide) h
  split at h
  · rename_i hc
    rw [List.mem_singleton.1 h]
    exact hc
  rename_i hcontrol
  split at h
  · exact hshort _ (by decide) h
  split at h
  · exact hshort _ (by decide) h
  split at h
  · exact hshort _ (by decide) h
  split at h
  · exact hshort _ (by decide) h
  split at h
  · exact hshort _ (by decide) h
  have hhigh := le_toNat_hexChar (c.toNat / 16) (by omega)
  have hlow := le_toNat_hexChar (c.toNat % 16) (by omega)
  simp only [List.mem_cons, List.not_mem_nil, or_false] at h
  rcases h with rfl | rfl | rfl | rfl | rfl | rfl
  · decide
  · decide
  · decide
  · decide
  · exact hhigh
  · exact hlow

/-- The text of a token holds no control character. -/
theorem Token.le_toNat_of_mem_text {t : Token} {c : Char} (h : c ∈ t.text) : 32 ≤ c.toNat := by
  have hfixed : ∀ {w : List Char}, (w.all fun c => decide (32 ≤ c.toNat)) = true → c ∈ w →
      32 ≤ c.toNat := fun hw hc => of_decide_eq_true (List.all_eq_true.1 hw c hc)
  cases t with
  | null => exact hfixed (by decide) h
  | bool b => cases b <;> exact hfixed (by decide) h
  | number n =>
    rcases Numeral.mem_text h with hdigit | rfl | rfl | rfl
    · have hl : 48 ≤ c.toNat := (isDigit_iff.1 hdigit).1
      omega
    · decide
    · decide
    · decide
  | string s =>
    cases s with
    | none => exact hfixed (by decide) h
    | some s =>
      simp only [Token.text, quote, List.cons_append, List.mem_cons, List.mem_append,
        List.mem_flatMap, List.not_mem_nil, or_false] at h
      rcases h with rfl | ⟨d, -, hd⟩ | rfl
      · decide
      · exact le_toNat_of_mem_escape hd
      · decide
  | _ =>
    rw [List.mem_singleton.1 h]
    decide

end Handoff.Json
