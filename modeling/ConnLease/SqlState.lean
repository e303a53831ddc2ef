/-!
# SQLSTATE codes

The code by which a driver names a condition. A code is kept exactly as the driver gave it; its
class is the part in front.
-/

namespace ConnLease

/-- The characters at the front of a text that take up exactly `n` bytes of UTF-8; `none` when the
`n`-th byte does not end a character. -/
def takeBytes : Nat → List Char → Option (List Char)
  | 0, _ => some []
  | _ + 1, [] => none
  | n + 1, c :: rest =>
    if c.utf8Size ≤ n + 1 then (takeBytes (n + 1 - c.utf8Size) rest).map (c :: ·) else none

structure SqlState where
  code : String
deriving Repr, DecidableEq

namespace SqlState

/-- The first two bytes of the code, or the whole code where they would split a character. -/
def className (s : SqlState) : String :=
  match takeBytes 2 s.code.toList with
  | some front => String.ofList front
  | none => s.code

end SqlState

/-! ## The front of a text -/

theorem takeBytes_append {n : Nat} {s front : List Char} (h : takeBytes n s = some front) :
    ∃ rest, s = front ++ rest ∧ front.foldr (fun c size => c.utf8Size + size) 0 = n := by
  induction s generalizing n front with
  | nil =>
    cases n with
    | zero => simp only [takeBytes, Option.some.injEq] at h; subst h; exact ⟨[], rfl, rfl⟩
    | succ n => simp [takeBytes] at h
  | cons c rest ih =>
    cases n with
    | zero => simp only [takeBytes, Option.some.injEq] at h; subst h; exact ⟨c :: rest, rfl, rfl⟩
    | succ n =>
      simp only [takeBytes] at h
      split at h
      · rename_i hc
        obtain ⟨tail, ht, rfl⟩ := Option.map_eq_some_iff.1 h
        obtain ⟨r, hr, hs⟩ := ih ht
        refine ⟨r, by simp [hr], ?_⟩
        rw [List.foldr_cons, hs]
        omega
      · cases h

theorem takeBytes_eq_some {n : Nat} (front rest : List Char)
    (h : front.foldr (fun c size => c.utf8Size + size) 0 = n) :
    takeBytes n (front ++ rest) = some front := by
  induction front generalizing n with
  | nil =>
    subst h
    simp [takeBytes]
  | cons c front ih =>
    have hc := c.utf8Size_pos
    rw [List.foldr_cons] at h
    obtain ⟨k, rfl⟩ : ∃ k, n = k + 1 := ⟨n - 1, by omega⟩
    rw [List.cons_append, takeBytes, if_pos (by omega), ih (by omega)]
    rfl

end ConnLease
