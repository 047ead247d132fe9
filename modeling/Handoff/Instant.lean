import Handoff.Calendar
/-!
# Instants

An instant is a moment in UTC to the nanosecond, given by its day, its second within the day and
the nanoseconds since that second began. A leap second is the second billion of nanoseconds of the
last second of a minute.

* `millis` counts a leap second into the second that follows it; `ofMillis?_millis` says for which
  instants nothing is lost by that.
* `order_eq_iff`: instants are ordered by day, second and nanosecond, in this order.
-/

namespace Handoff

open Calendar

/-- A moment in UTC within the years -262143 to 262142. -/
structure Instant where
  day : Int
  second : Nat
  nano : Nat
  first_le_day : firstDayOfYear (-262143) ≤ day
  day_lt : day < firstDayOfYear 262143
  second_lt : second < 86400
  nano_lt : nano < 1000000000 ∨ (second % 60 = 59 ∧ nano < 2000000000)
  deriving DecidableEq

namespace Instant

/-- The instant with these parts, if there is one. -/
def ofParts? (day : Int) (second nano : Nat) : Option Instant :=
  if h : (firstDayOfYear (-262143) ≤ day ∧ day < firstDayOfYear 262143) ∧ second < 86400 ∧
      (nano < 1000000000 ∨ (second % 60 = 59 ∧ nano < 2000000000)) then
    some ⟨day, second, nano, h.1.1, h.1.2, h.2.1, h.2.2⟩
  else none

/-- The first moment of 1970. -/
def epoch : Instant :=
  ⟨0, 0, 0, by decide, by decide, by decide, by decide⟩

/-- Milliseconds since the start of 1970; a leap second counts as the second after it. -/
def millis (t : Instant) : Int :=
  (t.day * 86400 + t.second) * 1000 + (t.nano / 1000000 : Nat)

/-- The instant a number of milliseconds after the start of 1970. -/
def ofMillis? (ms : Int) : Option Instant :=
  ofParts? (ms / 86400000) (ms % 86400000 / 1000).toNat (ms % 1000 * 1000000).toNat

/-- The instant a number of nanoseconds after the start of 1970. -/
def ofNanos? (ns : Int) : Option Instant :=
  ofParts? (ns / 86400000000000) (ns % 86400000000000 / 1000000000).toNat (ns % 1000000000).toNat

/-- By day, then by second, then by nanosecond. -/
def order (a b : Instant) : Ordering :=
  (compare a.day b.day).then ((compare a.second b.second).then (compare a.nano b.nano))

instance : Ord Instant := ⟨order⟩

theorem ofParts?_eq (t : Instant) : ofParts? t.day t.second t.nano = some t := by
  have h := t.nano_lt
  simp only [ofParts?, t.first_le_day, t.day_lt, t.second_lt, true_and]
  rw [dif_pos h]

/-- An instant is the one its count of milliseconds gives exactly if it is a whole millisecond
outside all leap seconds. -/
theorem ofMillis?_millis (t : Instant) :
    ofMillis? t.millis = some t ↔ t.nano % 1000000 = 0 ∧ t.nano < 1000000000 := by
  have hd := t.first_le_day
  have hd' := t.day_lt
  have hs := t.second_lt
  have hn := t.nano_lt
  constructor
  · intro h
    simp only [ofMillis?, ofParts?] at h
    split at h
    · have h' := Option.some.inj h
      have h1 := congrArg Instant.day h'
      have h2 := congrArg Instant.second h'
      have h3 := congrArg Instant.nano h'
      simp only [millis] at h1 h2 h3
      omega
    · cases h
  · intro ⟨h1, h2⟩
    have e1 : t.millis / 86400000 = t.day := by simp only [millis]; omega
    have e2 : (t.millis % 86400000 / 1000).toNat = t.second := by simp only [millis]; omega
    have e3 : (t.millis % 1000 * 1000000).toNat = t.nano := by simp only [millis]; omega
    rw [ofMillis?, e1, e2, e3, ofParts?_eq]

theorem order_eq_iff (a b : Instant) : order a b = .eq ↔ a = b := by
  simp only [order, Ordering.then_eq_eq, Std.LawfulEqCmp.compare_eq_iff_eq]
  constructor
  · intro ⟨h1, h2, h3⟩
    cases a; cases b
    simp_all
  · rintro rfl
    simp

end Instant

end Handoff
