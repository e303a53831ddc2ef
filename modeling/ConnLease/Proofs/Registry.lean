import Mathlib.Data.List.Nodup
import ConnLease.Registry

/-!
# What becomes of registered entries

Numbers may be registered several times, and values too, so an entry alone does not say which
registration it comes from. Here every registered value is marked with the place of its registration
in the sequence of operations. The marks change nothing (`run_marked`, `handedOut_marked`), and with
them the law is exact: every registration is handed out once or is on file once, and what is on file
stands in the order of registration.

Main statement: `entries_accounted_for`.
-/

namespace ConnLease.Registry

variable {α β : Type}

inductive Op (α : Type) where
  | register (id : Nat) (value : α)
  | unregister (id : Nat)
  | drain
deriving Repr, DecidableEq

def step (r : Registry α) : Op α → Registry α
  | .register id value => r.register id value
  | .unregister id => (r.unregister id).1
  | .drain => r.drain.1

/-- The entries that an operation hands out, in the order in which they come. -/
def handsOut (r : Registry α) : Op α → List (Nat × α)
  | .register .. => []
  | .unregister id => (r.unregister id).2.toList.map (id, ·)
  | .drain => r.drain.2

def run (r : Registry α) (ops : List (Op α)) : Registry α := ops.foldl step r

/-- All entries that operations hand out, one operation after the other. -/
def handedOut (r : Registry α) : List (Op α) → List (Nat × α)
  | [] => []
  | op :: ops => r.handsOut op ++ (r.step op).handedOut ops

/-- The entry that an operation registers. -/
def Op.added? : Op α → Option (Nat × α)
  | .register id value => some (id, value)
  | _ => none

/-- The entries that operations register, oldest first. -/
def registered (ops : List (Op α)) : List (Nat × α) := ops.filterMap Op.added?

/-! ## One operation -/

/-- The newest entry with a number has no other with that number behind it. -/
theorem takeNewest_eq_some {id : Nat} {l kept : List (Nat × α)} {value : α}
    (h : takeNewest id l = some (value, kept)) : ∃ older newer,
      l = older ++ (id, value) :: newer ∧ kept = older ++ newer ∧ id ∉ newer.map (·.1) := by
  induction l generalizing kept with
  | nil => cases h
  | cons e rest ih =>
    rw [takeNewest] at h
    cases hrest : takeNewest id rest with
    | some found =>
      rw [hrest] at h
      cases h
      obtain ⟨older, newer, hsplit, hkept, hnew⟩ := ih hrest
      exact ⟨e :: older, newer, by rw [hsplit, List.cons_append],
        by rw [hkept, List.cons_append], hnew⟩
    | none =>
      rw [hrest] at h
      dsimp only at h
      split at h
      · rename_i he
        cases h
        exact ⟨[], rest, by rw [← he, List.nil_append], rfl, takeNewest_eq_none_iff.1 hrest⟩
      · cases h

/-- Removing a number finds nothing, or takes out its newest entry and leaves all others in their
order. -/
theorem unregister_cases (r : Registry α) (id : Nat) :
    (id ∉ r.ids ∧ r.unregister id = (r, none)) ∨ ∃ older value newer,
      r.entries = older ++ (id, value) :: newer ∧ id ∉ newer.map (·.1) ∧
        r.unregister id = (⟨older ++ newer⟩, some value) := by
  unfold unregister
  cases h : takeNewest id r.entries with
  | none => exact .inl ⟨takeNewest_eq_none_iff.1 h, rfl⟩
  | some found =>
    obtain ⟨older, newer, hsplit, hkept, hnew⟩ := takeNewest_eq_some h
    refine .inr ⟨older, found.1, newer, hsplit, hnew, ?_⟩
    dsimp only
    rw [hkept]

/-- No entry gets lost or doubled. -/
theorem handsOut_perm (r : Registry α) (op : Op α) :
    (r.handsOut op ++ (r.step op).entries).Perm (r.entries ++ op.added?.toList) := by
  cases op with
  | register id value => exact .refl _
  | unregister id =>
    simp only [handsOut, step, Op.added?, Option.toList_none, List.append_nil]
    rcases r.unregister_cases id with ⟨-, hnone⟩ | ⟨older, value, newer, hsplit, -, hfound⟩
    · rw [hnone]
      exact .refl _
    · rw [hfound, hsplit]
      show ((id, value) :: (older ++ newer)).Perm _
      exact List.perm_middle.symm
  | drain =>
    simp only [handsOut, step, drain, empty, Op.added?, Option.toList_none, List.append_nil]
    exact List.reverse_perm _

/-- What stays on file keeps its order, and what is registered comes behind it. -/
theorem step_sublist (r : Registry α) (op : Op α) :
    (r.step op).entries.Sublist (r.entries ++ op.added?.toList) := by
  cases op with
  | register id value => exact .refl _
  | unregister id =>
    simp only [step, Op.added?, Option.toList_none, List.append_nil]
    rcases r.unregister_cases id with ⟨-, hnone⟩ | ⟨older, value, newer, hsplit, -, hfound⟩
    · rw [hnone]
    · rw [hfound, hsplit]
      exact (List.sublist_cons_self _ newer).append_left older
  | drain => exact List.nil_sublist _

/-! ## Sequences of operations -/

theorem registered_cons (op : Op α) (ops : List (Op α)) :
    registered (op :: ops) = op.added?.toList ++ registered ops := by
  unfold registered
  cases h : op.added? with
  | none => rw [List.filterMap_cons_none h]; rfl
  | some e => rw [List.filterMap_cons_some h]; rfl

theorem handedOut_perm (r : Registry α) (ops : List (Op α)) :
    (r.handedOut ops ++ (r.run ops).entries).Perm (r.entries ++ registered ops) := by
  induction ops generalizing r with
  | nil => simp [handedOut, run, registered]
  | cons op ops ih =>
    rw [handedOut, registered_cons, List.append_assoc, ← List.append_assoc r.entries]
    calc r.handsOut op ++ ((r.step op).handedOut ops ++ (r.run (op :: ops)).entries)
      _ |>.Perm (r.handsOut op ++ ((r.step op).entries ++ registered ops)) :=
        (ih (r.step op)).append_left _
      _ = r.handsOut op ++ (r.step op).entries ++ registered ops := (List.append_assoc ..).symm
      _ |>.Perm (r.entries ++ op.added?.toList ++ registered ops) :=
        (r.handsOut_perm op).append_right _

theorem run_sublist (r : Registry α) (ops : List (Op α)) :
    (r.run ops).entries.Sublist (r.entries ++ registered ops) := by
  induction ops generalizing r with
  | nil => simp [run, registered]
  | cons op ops ih =>
    rw [registered_cons, ← List.append_assoc]
    exact (ih (r.step op)).trans ((r.step_sublist op).append_right _)

/-! ## Marks -/

def map (f : α → β) (r : Registry α) : Registry β := ⟨r.entries.map (Prod.map id f)⟩

def Op.map (f : α → β) : Op α → Op β
  | .register id value => .register id (f value)
  | .unregister id => .unregister id
  | .drain => .drain

theorem takeNewest_map (f : α → β) (id : Nat) (l : List (Nat × α)) :
    takeNewest id (l.map (Prod.map (fun n => n) f)) =
      (takeNewest id l).map (Prod.map f (List.map (Prod.map (fun n => n) f))) := by
  induction l with
  | nil => rfl
  | cons e rest ih =>
    rw [List.map_cons, takeNewest, takeNewest, ih]
    cases takeNewest id rest with
    | some found => rfl
    | none =>
      dsimp only [Option.map_none]
      by_cases he : e.1 = id
      · simp [he]
      · simp [he]

/-- The registry does not look at the values. -/
theorem unregister_map (f : α → β) (r : Registry α) (id : Nat) :
    (r.map f).unregister id = Prod.map (map f) (Option.map f) (r.unregister id) := by
  have htake : takeNewest id (r.map f).entries = _ := takeNewest_map f id r.entries
  unfold unregister
  rw [htake]
  cases takeNewest id r.entries <;> rfl

theorem step_map (f : α → β) (r : Registry α) (op : Op α) :
    (r.map f).step (op.map f) = (r.step op).map f := by
  cases op with
  | register id value => simp [step, register, map, Op.map]
  | unregister id =>
    simp only [step, Op.map, unregister_map]
    rfl
  | drain => rfl

theorem handsOut_map (f : α → β) (r : Registry α) (op : Op α) :
    (r.map f).handsOut (op.map f) = (r.handsOut op).map (Prod.map id f) := by
  cases op with
  | register id value => rfl
  | unregister id =>
    simp only [handsOut, Op.map, unregister_map]
    rcases r.unregister id with ⟨kept, _ | value⟩ <;> rfl
  | drain => exact (List.map_reverse ..).symm

theorem run_map (f : α → β) (r : Registry α) (ops : List (Op α)) :
    (r.map f).run (ops.map (Op.map f)) = (r.run ops).map f := by
  induction ops generalizing r with
  | nil => rfl
  | cons op ops ih =>
    show ((r.map f).step (op.map f)).run (ops.map (Op.map f)) = _
    rw [step_map, ih]
    rfl

theorem handedOut_map (f : α → β) (r : Registry α) (ops : List (Op α)) :
    (r.map f).handedOut (ops.map (Op.map f)) = (r.handedOut ops).map (Prod.map id f) := by
  induction ops generalizing r with
  | nil => rfl
  | cons op ops ih =>
    rw [List.map_cons, handedOut, handsOut_map, step_map, ih, handedOut, List.map_append]

/-- The operations with every registered value marked with the place of its registration. -/
def marked (ops : List (Op α)) : List (Op (Nat × α)) := ops.mapIdx fun i op => op.map (i, ·)

/-- The registry after the operations, with its values marked. -/
def runMarked (ops : List (Op α)) : Registry (Nat × α) := empty.run (marked ops)

theorem Op.map_map {γ : Type} (f : α → β) (g : β → γ) (op : Op α) :
    (op.map f).map g = op.map fun a => g (f a) := by
  cases op <;> rfl

theorem Op.map_id (op : Op α) : op.map (fun a => a) = op := by
  cases op <;> rfl

theorem unmark_marked (ops : List (Op α)) : (marked ops).map (Op.map (·.2)) = ops := by
  refine List.ext_getElem? fun i => ?_
  unfold marked
  rw [List.getElem?_map, List.getElem?_mapIdx]
  cases ops[i]? with
  | none => rfl
  | some op => exact congrArg some ((op.map_map _ _).trans op.map_id)

/-- Marking the values changes nothing. -/
theorem run_marked (ops : List (Op α)) : (runMarked ops).map (·.2) = empty.run ops := by
  have h := run_map (·.2) empty (marked ops)
  rw [unmark_marked] at h
  exact h.symm

theorem handedOut_marked (ops : List (Op α)) :
    (empty.handedOut (marked ops)).map (Prod.map id (·.2)) = empty.handedOut ops := by
  have h := handedOut_map (·.2) empty (marked ops)
  rw [unmark_marked] at h
  exact h.symm

theorem added?_map_eq_some_iff {f : α → β} {op : Op α} {id : Nat} {b : β} :
    (op.map f).added? = some (id, b) ↔ ∃ a, op = .register id a ∧ f a = b := by
  cases op with
  | register n a => simp [Op.map, Op.added?, and_assoc]
  | unregister n => simp [Op.map, Op.added?]
  | drain => simp [Op.map, Op.added?]

/-- A marked entry is registered at the place that its mark names. -/
theorem mem_registered_marked {ops : List (Op α)} {id i : Nat} {value : α} :
    (id, i, value) ∈ registered (marked ops) ↔ ops[i]? = some (.register id value) := by
  unfold registered marked
  rw [List.mem_filterMap]
  constructor
  · rintro ⟨op, hop, hentry⟩
    obtain ⟨k, hk⟩ := List.mem_iff_getElem?.1 hop
    rw [List.getElem?_mapIdx] at hk
    obtain ⟨op, hget, rfl⟩ := Option.map_eq_some_iff.1 hk
    obtain ⟨a, rfl, ha⟩ := added?_map_eq_some_iff.1 hentry
    cases ha
    exact hget
  · intro h
    refine ⟨.register id (i, value), List.mem_iff_getElem?.2 ⟨i, ?_⟩, rfl⟩
    rw [List.getElem?_mapIdx, h]
    rfl

/-- The mark of an entry. -/
def mark (e : Nat × Nat × α) : Nat := e.2.1

theorem registered_marked_pairwise (ops : List (Op α)) :
    (registered (marked ops)).Pairwise fun e e' => mark e < mark e' := by
  unfold registered marked
  rw [List.pairwise_filterMap, List.pairwise_iff_getElem]
  intro i j hi hj hlt
  simp only [List.getElem_mapIdx]
  rintro ⟨n, k, a⟩ he ⟨n', k', a'⟩ he'
  obtain ⟨_, -, h⟩ := added?_map_eq_some_iff.1 he
  obtain ⟨_, -, h'⟩ := added?_map_eq_some_iff.1 he'
  cases h
  cases h'
  exact hlt

/-! ## The law -/

/-- All marked entries that there are after the operations: those handed out and those on file. -/
def accounted (ops : List (Op α)) : List (Nat × Nat × α) :=
  empty.handedOut (marked ops) ++ (runMarked ops).entries

theorem accounted_perm (ops : List (Op α)) : (accounted ops).Perm (registered (marked ops)) :=
  handedOut_perm empty (marked ops)

theorem runMarked_pairwise (ops : List (Op α)) :
    (runMarked ops).entries.Pairwise fun e e' => mark e < mark e' :=
  (registered_marked_pairwise ops).sublist (run_sublist empty (marked ops))

/-- What becomes of the entries that `ops` register in an empty registry. -/
structure AccountedFor (ops : List (Op α)) : Prop where
  /-- The marks change neither the entries on file nor those handed out. -/
  unmarked : (runMarked ops).map (·.2) = empty.run ops ∧
    (empty.handedOut (marked ops)).map (Prod.map id (·.2)) = empty.handedOut ops
  /-- Every registration is handed out once or is on file once, … -/
  once : ∀ i id value, ops[i]? = some (.register id value) →
    (id, i, value) ∈ accounted ops ∧ ((accounted ops).map mark).count i = 1
  /-- … and nothing else is. -/
  genuine : ∀ id i value, (id, i, value) ∈ accounted ops →
    ops[i]? = some (.register id value)
  /-- What is on file stands in the order of registration. -/
  order : (runMarked ops).entries.Pairwise fun e e' => mark e < mark e'
  ids : (empty.run ops).ids = (runMarked ops).entries.map (·.1)
  /-- A number that is not on file is not found, and nothing changes. Otherwise the latest
  registration with that number comes out, and the others stay in their order. -/
  unregister : ∀ n, (n ∉ (empty.run ops).ids ∧
      (empty.run ops).unregister n = (empty.run ops, none)) ∨ ∃ older i value newer,
    (runMarked ops).entries = older ++ (n, i, value) :: newer ∧
      (∀ e ∈ older ++ newer, e.1 = n → mark e < i) ∧
      (empty.run ops).unregister n = (map (·.2) ⟨older ++ newer⟩, some value)
  /-- A drain hands out all that is on file, the latest registration first. -/
  drain : (empty.run ops).drain = (empty, (empty.run ops).entries.reverse)
  views : ∀ n, ((empty.run ops).contains n = true ↔ n ∈ (empty.run ops).ids) ∧
    (empty.run ops).size = (empty.run ops).ids.length ∧
    ((empty.run ops).isEmpty = true ↔ (empty.run ops).ids = [])

theorem entries_accounted_for (ops : List (Op α)) : AccountedFor ops where
  unmarked := ⟨run_marked ops, handedOut_marked ops⟩
  once := by
    intro i id value h
    have hmem : (id, i, value) ∈ accounted ops :=
      (accounted_perm ops).mem_iff.2 (mem_registered_marked.2 h)
    have hnodup : ((registered (marked ops)).map mark).Nodup := by
      refine List.pairwise_map.2 ((registered_marked_pairwise ops).imp ?_)
      exact fun hlt => Nat.ne_of_lt hlt
    refine ⟨hmem, ?_⟩
    refine List.count_eq_one_of_mem ((accounted_perm ops).map mark |>.nodup_iff.2 hnodup) ?_
    exact List.mem_map_of_mem (f := mark) hmem
  genuine := fun _ _ _ h => mem_registered_marked.1 ((accounted_perm ops).mem_iff.1 h)
  order := runMarked_pairwise ops
  ids := by
    rw [← run_marked]
    simp [Registry.ids, Registry.map]
  unregister := by
    intro n
    have hmap := unregister_map (·.2) (runMarked ops) n
    rw [run_marked] at hmap
    rcases (runMarked ops).unregister_cases n with
      ⟨hnot, hnone⟩ | ⟨older, ⟨i, value⟩, newer, hsplit, hnew, hfound⟩
    · refine .inl ⟨?_, ?_⟩
      · rw [← run_marked]
        simpa [Registry.ids, Registry.map] using hnot
      · rw [hmap, hnone, ← run_marked]
        rfl
    · refine .inr ⟨older, i, value, newer, hsplit, ?_, ?_⟩
      · have hordered := runMarked_pairwise ops
        rw [hsplit, List.pairwise_append] at hordered
        obtain ⟨-, -, hbefore⟩ := hordered
        intro e he hn
        rcases List.mem_append.1 he with he | he
        · exact hbefore e he (n, i, value) (List.mem_cons_self ..)
        · exact absurd (hn ▸ List.mem_map_of_mem he) hnew
      · rw [hmap, hfound]
        rfl
  drain := rfl
  views := by
    intro n
    refine ⟨contains_iff _ n, (length_ids _).symm, ?_⟩
    simp [Registry.isEmpty, Registry.ids]

/-- A number that is on file twice, with the same value: the later registration goes first. -/
example :
    let ops : List (Op String) :=
      [.register 7 "a", .register 8 "b", .register 7 "a", .unregister 7, .drain]
    empty.handedOut (marked ops) = [(7, 2, "a"), (8, 1, "b"), (7, 0, "a")] := by
  decide

end ConnLease.Registry
