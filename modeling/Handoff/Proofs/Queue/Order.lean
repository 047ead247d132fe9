import Handoff.Proofs.Reference.Order
import Handoff.Queue
import Mathlib.Data.List.Sort
/-!
# The order in which a queue hands out

References are totally ordered, and a queue holds them in that order. So what comes out depends only
on what was put in, and not on when.

* `insert_perm`, `insert_ascending`: a put adds one reference and keeps the order.
* `sorted_eq_of_perm`: **the same references, put in whatever order, are handed out alike.**
* `foldl_insert`: putting one reference after another sorts them.
-/

namespace Handoff

namespace Reference

/-- A reference that differs from others of its kind in its task alone. -/
def ofTask (task : Int64) : Reference :=
  ⟨.medium, ⟨1⟩, .medium, ⟨task⟩, .epoch, "default"⟩

end Reference

/-- No reference stands before a smaller one. -/
def Ascending (rs : List Reference) : Prop :=
  rs.Pairwise fun a b => a.le b

namespace Queue

variable {a b : Reference} {rs ss : List Reference}

/-- A reference in front of ascending ones that are no smaller. -/
theorem ascending_cons : Ascending (a :: rs) ↔ (∀ x ∈ rs, a.le x) ∧ Ascending rs :=
  List.pairwise_cons

theorem insert_perm (a : Reference) (rs : List Reference) : (insert a rs).Perm (a :: rs) := by
  induction rs with
  | nil => exact List.Perm.refl _
  | cons x xs ih =>
    simp only [insert]
    split
    · exact List.Perm.refl _
    · exact (ih.cons x).trans (List.Perm.swap a x xs)

theorem insert_ascending (h : Ascending rs) : Ascending (insert a rs) := by
  induction rs with
  | nil => simp [insert, Ascending]
  | cons x xs ih =>
    obtain ⟨hx, hxs⟩ := ascending_cons.1 h
    simp only [insert]
    split
    · rename_i hle
      refine ascending_cons.2 ⟨?_, h⟩
      intro y hy
      rcases List.mem_cons.1 hy with rfl | hy
      · exact hle
      · exact Reference.le_trans hle (hx y hy)
    · -- the order is total, so `x` may stand before `a`
      rename_i hle
      have hxa : x.le a := (Reference.le_total x a).resolve_right hle
      refine ascending_cons.2 ⟨?_, ih hxs⟩
      intro y hy
      rcases mem_insert.1 hy with rfl | hy
      · exact hxa
      · exact hx y hy

theorem sorted_perm (rs : List Reference) : (sorted rs).Perm rs := by
  induction rs with
  | nil => exact List.Perm.refl _
  | cons x xs ih => exact (insert_perm x (sorted xs)).trans (ih.cons x)

theorem sorted_ascending (rs : List Reference) : Ascending (sorted rs) := by
  induction rs with
  | nil => exact List.Pairwise.nil
  | cons x xs ih => exact insert_ascending ih

/-- There is one way to put references in ascending order. -/
theorem eq_of_perm (hp : rs.Perm ss) (hr : Ascending rs) (hs : Ascending ss) : rs = ss :=
  hp.eq_of_pairwise (fun _ _ _ _ => Reference.le_antisymm) hr hs

/-- **The same references are handed out alike**, in whatever order they were put. -/
theorem sorted_eq_of_perm (h : rs.Perm ss) : sorted rs = sorted ss :=
  eq_of_perm ((sorted_perm rs).trans (h.trans (sorted_perm ss).symm)) (sorted_ascending rs)
    (sorted_ascending ss)

theorem foldl_insert_perm (rs held : List Reference) :
    (rs.foldl (fun held r => insert r held) held).Perm (rs ++ held) := by
  induction rs generalizing held with
  | nil => exact List.Perm.refl _
  | cons x xs ih =>
    have h : (xs ++ insert x held).Perm (xs ++ x :: held) :=
      (insert_perm x held).append_left xs
    exact (ih _).trans (h.trans List.perm_middle)

theorem foldl_insert_ascending (rs : List Reference) {held : List Reference} (h : Ascending held) :
    Ascending (rs.foldl (fun held r => insert r held) held) := by
  induction rs generalizing held with
  | nil => exact h
  | cons x xs ih => exact ih (insert_ascending h)

/-- One put after another into an empty queue sorts the references. -/
theorem foldl_insert (rs : List Reference) :
    rs.foldl (fun held r => insert r held) [] = sorted rs := by
  refine eq_of_perm ?_ (foldl_insert_ascending rs List.Pairwise.nil) (sorted_ascending rs)
  have h := foldl_insert_perm rs []
  rw [List.append_nil] at h
  exact h.trans (sorted_perm rs).symm

end Queue

end Handoff
