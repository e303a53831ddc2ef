import Mathlib.Algebra.GroupWithZero.Nat
import ConnLease.Roster

/-!
# Sums and selections over rosters

A number is read off every record of a roster, and the sum of all of them is followed while records
are added and changed. A record that is not selected may change without being noticed.
-/

namespace ConnLease.Roster

variable {first : Nat} {α : Type}

theorem sum_push (r : Roster first α) (a : α) (g : α → Nat) :
    ((r.push a).toList.map g).sum = (r.toList.map g).sum + g a := by
  simp [push]

theorem sum_modify (g : α → Nat) (f : α → α) {r : Roster first α} {n : Nat} {a : α}
    (h : r.get? n = some a) :
    ((r.modify n f).toList.map g).sum + g a = (r.toList.map g).sum + g (f a) := by
  have hlist : ∀ (xs : List α) (i : Nat), xs[i]? = some a →
      ((xs.modify i f).map g).sum + g a = (xs.map g).sum + g (f a) := by
    intro xs
    induction xs with
    | nil => intro i hi; simp at hi
    | cons x xs ih =>
      intro i hi
      cases i with
      | zero =>
        obtain rfl : x = a := by simpa using hi
        simp only [List.modify_zero_cons, List.map_cons, List.sum_cons]
        omega
      | succ i =>
        have htail := ih i (by simpa using hi)
        simp only [List.modify_succ_cons, List.map_cons, List.sum_cons]
        omega
  unfold get? at h
  unfold modify
  split at h
  · rename_i hn
    rw [if_pos hn]
    exact hlist r.toList (n - first) h
  · cases h

theorem filter_modify {p : α → Bool} {f : α → α} {r : Roster first α} {n : Nat} {a : α}
    (h : r.get? n = some a) (ha : p a = false) (hf : p (f a) = false) :
    (r.modify n f).toList.filter p = r.toList.filter p := by
  have hlist : ∀ (xs : List α) (i : Nat), xs[i]? = some a →
      (xs.modify i f).filter p = xs.filter p := by
    intro xs
    induction xs with
    | nil => intro i hi; simp at hi
    | cons x xs ih =>
      intro i hi
      cases i with
      | zero =>
        obtain rfl : x = a := by simpa using hi
        simp [ha, hf]
      | succ i =>
        rw [List.modify_succ_cons, List.filter_cons, List.filter_cons, ih i (by simpa using hi)]
  unfold get? at h
  unfold modify
  split at h
  · rename_i hn
    rw [if_pos hn]
    exact hlist r.toList (n - first) h
  · cases h

end ConnLease.Roster
