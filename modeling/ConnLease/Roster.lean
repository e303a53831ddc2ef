/-!
# Rosters

Records numbered upward from a first number, in the order in which they were added. A record
keeps its number for good: records are changed in place and never removed. Everything that a
session hands out under a number (timers, pools, connections, statements) lives in a roster.
-/

namespace ConnLease

/-- Records numbered `first`, `first + 1`, … in the order of their arrival. -/
structure Roster (first : Nat) (α : Type) where
  toList : List α
deriving Repr, DecidableEq

namespace Roster

variable {first : Nat} {α : Type}

def empty : Roster first α := ⟨[]⟩

def size (r : Roster first α) : Nat := r.toList.length

/-- The number that the next record will get. -/
def next (r : Roster first α) : Nat := first + r.size

/-- The record with number `n`, if there is one. -/
def get? (r : Roster first α) (n : Nat) : Option α :=
  if first ≤ n then r.toList[n - first]? else none

def push (r : Roster first α) (a : α) : Roster first α := ⟨r.toList ++ [a]⟩

/-- Change the record with number `n`; without such a record nothing changes. -/
def modify (r : Roster first α) (n : Nat) (f : α → α) : Roster first α :=
  if first ≤ n then ⟨r.toList.modify (n - first) f⟩ else r

def map (r : Roster first α) (f : α → α) : Roster first α := ⟨r.toList.map f⟩

/-! ## Reading after writing -/

@[simp]
theorem get?_empty (n : Nat) : (empty : Roster first α).get? n = none := by
  simp [empty, get?]

@[simp]
theorem size_push (r : Roster first α) (a : α) : (r.push a).size = r.size + 1 := by
  simp [push, size]

@[simp]
theorem size_modify (r : Roster first α) (n : Nat) (f : α → α) :
    (r.modify n f).size = r.size := by
  unfold modify size
  split <;> simp

theorem get?_push (r : Roster first α) (a : α) (n : Nat) :
    (r.push a).get? n = if n = r.next then some a else r.get? n := by
  by_cases hf : first ≤ n
  · simp only [get?, push, next, size, hf, if_true, List.getElem?_append]
    by_cases hn : n = first + r.toList.length
    · simp [hn]
    · rw [if_neg hn]
      split
      · rfl
      · rename_i hl
        have : r.toList.length < n - first := by omega
        rw [List.getElem?_eq_none (by simp; omega), List.getElem?_eq_none (by omega)]
  · have : n ≠ r.next := by unfold next; omega
    simp [get?, hf, this]

@[simp]
theorem get?_push_next (r : Roster first α) (a : α) : (r.push a).get? r.next = some a := by
  simp [get?_push]

theorem get?_eq_none_of_next_le (r : Roster first α) {n : Nat} (h : r.next ≤ n) :
    r.get? n = none := by
  unfold get?
  unfold next size at h
  split
  · exact List.getElem?_eq_none (by omega)
  · rfl

theorem lt_next_of_get? {r : Roster first α} {n : Nat} {a : α} (h : r.get? n = some a) :
    n < r.next := by
  rcases Nat.lt_or_ge n r.next with hn | hn
  · exact hn
  · rw [get?_eq_none_of_next_le r hn] at h
    cases h

theorem isSome_get?_iff (r : Roster first α) (n : Nat) :
    (r.get? n).isSome = true ↔ first ≤ n ∧ n < r.next := by
  unfold get? next size
  split
  · rename_i hn
    have hlt : n - first < r.toList.length ↔ n < first + r.toList.length := by omega
    rw [isSome_getElem?, and_iff_right hn]
    exact hlt
  · rename_i hn
    simp [hn]

theorem mem_toList (r : Roster first α) (a : α) : a ∈ r.toList ↔ ∃ n, r.get? n = some a := by
  unfold get?
  rw [List.mem_iff_getElem?]
  constructor
  · rintro ⟨i, hi⟩
    refine ⟨first + i, ?_⟩
    rw [if_pos (Nat.le_add_right _ _), Nat.add_sub_cancel_left, hi]
  · rintro ⟨n, hn⟩
    split at hn
    · exact ⟨n - first, hn⟩
    · cases hn

@[simp]
theorem get?_next (r : Roster first α) : r.get? r.next = none :=
  get?_eq_none_of_next_le r (Nat.le_refl _)

theorem ne_next_of_get? {r : Roster first α} {n : Nat} {a : α} (h : r.get? n = some a) :
    n ≠ r.next :=
  Nat.ne_of_lt (lt_next_of_get? h)

theorem get?_modify (r : Roster first α) (n m : Nat) (f : α → α) :
    (r.modify n f).get? m = if m = n then (r.get? m).map f else r.get? m := by
  by_cases hn : first ≤ n
  · by_cases hm : first ≤ m
    · simp only [get?, modify, hn, hm, if_true, List.getElem?_modify]
      by_cases h : m = n
      · simp [h]
      · have : n - first ≠ m - first := by omega
        simp [h, this]
    · have : m ≠ n := by omega
      simp [get?, hm, this]
  · by_cases h : m = n
    · subst h; simp [get?, hn]
    · simp [get?, modify, hn, h]

@[simp]
theorem get?_modify_self (r : Roster first α) (n : Nat) (f : α → α) :
    (r.modify n f).get? n = (r.get? n).map f := by
  simp [get?_modify]

theorem get?_modify_of_ne (r : Roster first α) {n m : Nat} (f : α → α) (h : m ≠ n) :
    (r.modify n f).get? m = r.get? m := by
  simp [get?_modify, h]

@[simp]
theorem get?_map (r : Roster first α) (f : α → α) (n : Nat) :
    (r.map f).get? n = (r.get? n).map f := by
  unfold get? map
  split <;> simp

@[simp]
theorem next_push (r : Roster first α) (a : α) : (r.push a).next = r.next + 1 := by
  simp only [next, size_push]
  omega

@[simp]
theorem next_modify (r : Roster first α) (n : Nat) (f : α → α) :
    (r.modify n f).next = r.next := by
  simp [next]

/-! ## Equal rosters -/

/-- A roster is determined by what stands under each number. -/
theorem ext_get? {r s : Roster first α} (h : ∀ n, r.get? n = s.get? n) : r = s := by
  obtain ⟨xs⟩ := r
  obtain ⟨ys⟩ := s
  congr 1
  apply List.ext_getElem?
  intro i
  have hi := h (first + i)
  simpa [get?] using hi

/-- Changes that agree on the record that is there have the same effect. -/
theorem modify_congr {r : Roster first α} {n : Nat} {f g : α → α}
    (h : ∀ a, r.get? n = some a → f a = g a) : r.modify n f = r.modify n g := by
  apply ext_get?
  intro m
  rw [get?_modify, get?_modify]
  split
  · rename_i hm
    subst hm
    cases hr : r.get? m with
    | none => rfl
    | some a => simp [h a hr]
  · rfl

theorem modify_id (r : Roster first α) (n : Nat) : r.modify n (fun a => a) = r := by
  apply ext_get?
  intro m
  rw [get?_modify]
  split <;> simp

/-- A change that leaves the record that is there as it is does nothing. -/
theorem modify_eq_self {r : Roster first α} {n : Nat} {f : α → α}
    (h : ∀ a, r.get? n = some a → f a = a) : r.modify n f = r := by
  rw [modify_congr (g := fun a => a) h, modify_id]

theorem modify_of_none {r : Roster first α} {n : Nat} (h : r.get? n = none) (f : α → α) :
    r.modify n f = r :=
  modify_eq_self fun a ha => by rw [h] at ha; cases ha

theorem modify_congr_of_some {r : Roster first α} {n : Nat} {f g : α → α} {a : α}
    (h : r.get? n = some a) (hf : f a = g a) : r.modify n f = r.modify n g :=
  modify_congr fun b hb => by rw [h] at hb; cases hb; exact hf

theorem modify_of_some {r : Roster first α} {n : Nat} {f : α → α} {a : α}
    (h : r.get? n = some a) (hf : f a = a) : r.modify n f = r :=
  modify_eq_self fun b hb => by rw [h] at hb; cases hb; exact hf

theorem modify_modify (r : Roster first α) (n : Nat) (f g : α → α) :
    (r.modify n f).modify n g = r.modify n fun a => g (f a) := by
  apply ext_get?
  intro m
  simp only [get?_modify]
  split <;> simp [Function.comp_def]

/-! ## One write -/

/-- Rosters that have records under the same numbers have the same size. -/
theorem size_eq_of_isSome {r s : Roster first α}
    (h : ∀ n, (r.get? n).isSome = (s.get? n).isSome) : r.size = s.size := by
  have hle : ∀ {r s : Roster first α}, (∀ n, (r.get? n).isSome = (s.get? n).isSome) →
      r.next ≤ s.next := by
    intro r s h
    refine Nat.le_of_not_lt fun hlt => ?_
    have hr := (r.isSome_get?_iff s.next).2 ⟨Nat.le_add_right _ _, hlt⟩
    rw [h, get?_next] at hr
    cases hr
  have hnext := Nat.le_antisymm (hle h) (hle fun n => (h n).symm)
  unfold next at hnext
  omega

/-- What stands in a roster after a write that either changes one record, or adds one, or does
nothing. -/
theorem get?_written {r s : Roster first α} {target : Option Nat} {f : α → α} {fresh : Option α}
    (hchanged : ∀ n, target = some n → s = r.modify n f ∧ fresh = none)
    (hadded : ∀ a, fresh = some a → s = r.push a)
    (hsame : target = none → fresh = none → s = r) (m : Nat) :
    s.get? m =
      if target = some m then (r.get? m).map f
      else if m = r.next then fresh
      else r.get? m := by
  have hnone : (if m = r.next then none else r.get? m) = r.get? m := by
    split
    · rename_i hm
      rw [hm, get?_next]
    · rfl
  cases htarget : target with
  | some n =>
    obtain ⟨rfl, rfl⟩ := hchanged n htarget
    rw [get?_modify, hnone]
    by_cases hm : m = n
    · rw [if_pos hm, if_pos (by rw [hm])]
    · rw [if_neg hm, if_neg fun e => hm (Option.some.inj e).symm]
  | none =>
    rw [if_neg (fun e => by cases e)]
    cases hfresh : fresh with
    | some a => rw [hadded a hfresh, get?_push]
    | none => rw [hsame htarget hfresh, hnone]

end Roster

end ConnLease
