/-!
# Blank characters

Identifiers, settings and lists of ids may be written with blank space around them. A character is
blank exactly if it has the Unicode property White_Space.

* `trim_append_blank`, `trim_blank_append`: blank space around a text does not change its trim.
* `trim_eq_nil`: a text trims to nothing exactly if it is blank throughout.
-/

namespace Handoff.Text

/-- The code points with the property White_Space. -/
def isBlank (c : Char) : Bool :=
  let n := c.toNat
  (9 ≤ n && n ≤ 13) || n == 0x20 || n == 0x85 || n == 0xA0 || n == 0x1680 ||
    (0x2000 ≤ n && n ≤ 0x200A) || n == 0x2028 || n == 0x2029 || n == 0x202F || n == 0x205F ||
    n == 0x3000

/-- A text without the blank characters it starts with. -/
def trimStart (cs : List Char) : List Char :=
  cs.dropWhile isBlank

/-- A text without the blank characters it ends with. -/
def trimEnd (cs : List Char) : List Char :=
  (cs.reverse.dropWhile isBlank).reverse

/-- A text without the blank characters around it. -/
def trim (cs : List Char) : List Char :=
  trimEnd (trimStart cs)

/-- Every character is blank; the empty text is blank as well. -/
def allBlank (cs : List Char) : Bool :=
  cs.all isBlank

/-- A string without the blank characters around it. -/
def trimmed (s : String) : String :=
  String.ofList (trim s.toList)

/-- A string of blank characters only. -/
def blank (s : String) : Bool :=
  allBlank s.toList

theorem trimStart_blank_append {b : List Char} (h : allBlank b = true) (cs : List Char) :
    trimStart (b ++ cs) = trimStart cs := by
  induction b with
  | nil => rfl
  | cons c b ih =>
    simp only [allBlank, List.all_cons, Bool.and_eq_true] at h
    simp only [trimStart, List.cons_append, List.dropWhile_cons, h.1, if_true]
    exact ih h.2

theorem trimEnd_append_blank {b : List Char} (h : allBlank b = true) (cs : List Char) :
    trimEnd (cs ++ b) = trimEnd cs := by
  have hr : allBlank b.reverse = true := by
    simpa [allBlank] using h
  have := trimStart_blank_append hr cs.reverse
  simp only [trimStart] at this
  simp [trimEnd, List.reverse_append, this]

theorem trimStart_eq_nil {cs : List Char} : trimStart cs = [] ↔ allBlank cs = true := by
  induction cs with
  | nil => simp [trimStart, allBlank]
  | cons c cs ih =>
    by_cases hc : isBlank c = true
    · rw [trimStart, List.dropWhile_cons_of_pos hc, allBlank, List.all_cons, hc, Bool.true_and]
      exact ih
    · simp [trimStart, allBlank, hc]

/-- Blank space before a text does not change its trim. -/
theorem trim_blank_append {b : List Char} (h : allBlank b = true) (cs : List Char) :
    trim (b ++ cs) = trim cs := by
  rw [trim, trimStart_blank_append h, trim]

/-- Blank space after a text does not change its trim. -/
theorem trim_append_blank {b : List Char} (h : allBlank b = true) (cs : List Char) :
    trim (cs ++ b) = trim cs := by
  induction cs with
  | nil =>
    have hb : trimStart b = [] := trimStart_eq_nil.2 h
    rw [List.nil_append, trim, hb]; rfl
  | cons c cs ih =>
    by_cases hc : isBlank c = true
    · simpa [trim, trimStart, List.dropWhile_cons, hc] using ih
    · have hs : ∀ r, trimStart (c :: r) = c :: r := fun r => by simp [trimStart, hc]
      rw [trim, List.cons_append, hs, ← List.cons_append, trimEnd_append_blank h, trim, hs]

/-- What is left of a text starts with no blank character. -/
theorem isBlank_head_trimStart {cs : List Char} {c : Char} {r : List Char}
    (h : trimStart cs = c :: r) : isBlank c = false := by
  induction cs with
  | nil => cases h
  | cons d cs ih =>
    by_cases hd : isBlank d = true
    · exact ih (by simpa [trimStart, List.dropWhile_cons, hd] using h)
    · simp only [trimStart, List.dropWhile_cons, hd] at h
      simp only [Bool.false_eq_true, if_false, List.cons.injEq] at h
      rw [← h.1]; simpa using hd

/-- A text trims to nothing exactly if it is blank throughout. -/
theorem trim_eq_nil {cs : List Char} : trim cs = [] ↔ allBlank cs = true := by
  rw [← trimStart_eq_nil, trim, trimEnd, List.reverse_eq_nil_iff]
  constructor
  · intro h
    cases ht : trimStart cs with
    | nil => rfl
    | cons c r =>
      have hb : allBlank (trimStart cs).reverse = true := trimStart_eq_nil.1 h
      rw [ht] at hb
      have hc := isBlank_head_trimStart ht
      simp [allBlank, hc] at hb
  · intro h
    simp [h]

end Handoff.Text
