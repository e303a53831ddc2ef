/-!
# Registries

The statements that a connection has open, in the order in which they were registered. One number
may be registered several times: removal takes the newest entry with it, and a sweep hands the
entries out newest first.
-/

namespace ConnLease

/-- Entries filed under numbers, oldest first. -/
structure Registry (α : Type) where
  entries : List (Nat × α)
deriving Repr, DecidableEq

namespace Registry

variable {α : Type}

def empty : Registry α := ⟨[]⟩

/-- The numbers on file in the order of registration. -/
def ids (r : Registry α) : List Nat := r.entries.map (·.1)

def size (r : Registry α) : Nat := r.entries.length

def isEmpty (r : Registry α) : Bool := r.entries.isEmpty

def contains (r : Registry α) (id : Nat) : Bool := r.entries.any (·.1 == id)

def register (r : Registry α) (id : Nat) (value : α) : Registry α := ⟨r.entries ++ [(id, value)]⟩

/-- Take the newest entry with number `id` out of a list that runs from oldest to newest. -/
def takeNewest (id : Nat) : List (Nat × α) → Option (α × List (Nat × α))
  | [] => none
  | e :: rest =>
    match takeNewest id rest with
    | some (value, kept) => some (value, e :: kept)
    | none => if e.1 = id then some (e.2, rest) else none

/-- Remove the newest entry with number `id` and hand out its value. -/
def unregister (r : Registry α) (id : Nat) : Registry α × Option α :=
  match takeNewest id r.entries with
  | some (value, kept) => (⟨kept⟩, some value)
  | none => (r, none)

/-- Empty the registry; its entries come out newest first. -/
def drain (r : Registry α) : Registry α × List (Nat × α) := (empty, r.entries.reverse)

/-! ## The operations seen through `ids` -/

@[simp]
theorem ids_empty : (empty : Registry α).ids = [] := rfl

@[simp]
theorem ids_register (r : Registry α) (id : Nat) (value : α) :
    (r.register id value).ids = r.ids ++ [id] := by
  simp [ids, register]

@[simp]
theorem ids_drain (r : Registry α) : r.drain.1.ids = [] := rfl

theorem drained_ids (r : Registry α) : r.drain.2.map (·.1) = r.ids.reverse := by
  simp [drain, ids]

/-- Where nothing is found, nothing is removed. -/
theorem unregister_none (r : Registry α) (id : Nat) (h : (r.unregister id).2 = none) :
    (r.unregister id).1 = r := by
  unfold unregister at h ⊢
  cases ht : takeNewest id r.entries with
  | none => rfl
  | some found => rw [ht] at h; cases h

theorem mem_takeNewest_of_ne {id n : Nat} (hn : n ≠ id) {l kept : List (Nat × α)} {value : α}
    (h : takeNewest id l = some (value, kept)) : n ∈ kept.map (·.1) ↔ n ∈ l.map (·.1) := by
  induction l generalizing kept with
  | nil => cases h
  | cons e rest ih =>
    rw [takeNewest] at h
    cases hrest : takeNewest id rest with
    | some found =>
      rw [hrest] at h
      cases h
      rw [List.map_cons, List.map_cons, List.mem_cons, List.mem_cons, ih hrest]
    | none =>
      rw [hrest] at h
      dsimp only at h
      split at h
      · rename_i he
        cases h
        have hne : n ≠ e.1 := fun heq => hn (heq.trans he)
        rw [List.map_cons, List.mem_cons, or_iff_right hne]
      · cases h

/-- Removing one number leaves the entries under the others. -/
theorem mem_ids_unregister_of_ne (r : Registry α) {id n : Nat} (hn : n ≠ id) :
    n ∈ (r.unregister id).1.ids ↔ n ∈ r.ids := by
  unfold unregister
  cases h : takeNewest id r.entries with
  | none => rfl
  | some found => exact mem_takeNewest_of_ne hn h

theorem takeNewest_eq_none_iff {id : Nat} {l : List (Nat × α)} :
    takeNewest id l = none ↔ id ∉ l.map (·.1) := by
  induction l with
  | nil => simp [takeNewest]
  | cons e rest ih =>
    rw [takeNewest, List.map_cons, List.mem_cons, not_or, ← ih]
    cases takeNewest id rest with
    | some found => simp
    | none =>
      by_cases he : e.1 = id
      · simp [he]
      · simpa [he] using fun h => he h.symm

theorem ids_takeNewest {id : Nat} {l kept : List (Nat × α)} {value : α}
    (hnodup : (l.map (·.1)).Nodup) (h : takeNewest id l = some (value, kept)) :
    kept.map (·.1) = (l.map (·.1)).filter (· != id) := by
  induction l generalizing kept with
  | nil => cases h
  | cons e rest ih =>
    obtain ⟨hnew, hrest⟩ := List.nodup_cons.1 hnodup
    rw [takeNewest] at h
    cases hfound : takeNewest id rest with
    | some found =>
      rw [hfound] at h
      cases h
      have hmem : id ∈ rest.map (·.1) := by
        refine Decidable.not_not.1 fun hnot => ?_
        rw [takeNewest_eq_none_iff.2 hnot] at hfound
        cases hfound
      have hne : e.1 ≠ id := by
        rintro rfl
        exact hnew hmem
      rw [List.map_cons, List.map_cons, ih hrest hfound,
        List.filter_cons_of_pos (by simpa using hne)]
    | none =>
      rw [hfound] at h
      dsimp only at h
      split at h
      · rename_i he
        cases h
        have hnot : id ∉ rest.map (·.1) := takeNewest_eq_none_iff.1 hfound
        rw [List.map_cons, List.filter_cons_of_neg (by simpa using he), List.filter_eq_self.2]
        intro n hn
        have hne : n ≠ id := fun he => hnot (he ▸ hn)
        simpa using hne
      · cases h

/-- Where every number is on file once, removing one leaves the others in their order. -/
theorem ids_unregister (r : Registry α) (id : Nat) (hnodup : r.ids.Nodup) :
    (r.unregister id).1.ids = r.ids.filter (· != id) := by
  unfold unregister
  cases h : takeNewest id r.entries with
  | some found => exact ids_takeNewest hnodup h
  | none =>
    have hnot : id ∉ r.ids := takeNewest_eq_none_iff.1 h
    refine (List.filter_eq_self.2 ?_).symm
    intro n hn
    have hne : n ≠ id := fun he => hnot (he ▸ hn)
    simpa using hne

theorem length_ids (r : Registry α) : r.ids.length = r.size := by
  simp [ids, size]

theorem contains_iff (r : Registry α) (id : Nat) : r.contains id = true ↔ id ∈ r.ids := by
  simp [contains, ids, List.any_eq_true, beq_iff_eq]

end Registry

end ConnLease
