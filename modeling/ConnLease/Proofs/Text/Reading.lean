import Mathlib.Data.List.Induction
import Mathlib.Data.Nat.Digits.Defs
import ConnLease.Text.Numeral
import ConnLease.Text.Split

/-!
# What is read off a text

The pieces that a text is cut into are those of the library, and a numeral is read exactly if it
denotes a number, by its decimal digits, that fits into 64 bits.
-/

namespace ConnLease.Text

/-! ## Pieces -/

theorem splitOn_eq (sep : Char) (s : List Char) : splitOn sep s = s.splitOn sep := by
  induction s with
  | nil => rfl
  | cons c rest ih =>
    rw [List.splitOn_cons_eq_if_modifyHead, ← ih, splitOn]
    by_cases hc : c = sep
    · rw [if_pos hc, if_pos (beq_iff_eq.2 hc)]
    · rw [if_neg hc, if_neg (by simpa using hc)]
      cases hrest : splitOn sep rest with
      | nil => exact absurd hrest (splitOn_ne_nil sep rest)
      | cons piece pieces => rfl

theorem splitFirst_of_mem {sep : Char} {s : List Char} (h : sep ∈ s) :
    splitFirst sep s = some (s.takeWhile (· != sep), (s.dropWhile (· != sep)).tail) := by
  induction s with
  | nil => cases h
  | cons c rest ih =>
    by_cases hc : c = sep
    · simp [splitFirst, hc]
    · have hrest : sep ∈ rest := List.mem_of_ne_of_mem (Ne.symm hc) h
      simp [splitFirst, hc, ih hrest]

/-! ## Numerals -/

/-- A text writes a number: after one plus sign or none it has one or more ASCII digits, which are
the decimal digits of the number, the least significant one last, and the number fits into
64 bits. -/
def Denotes (s : List Char) (n : Nat) : Prop :=
  ∃ sign digits : List Char, s = sign ++ digits ∧ (sign = [] ∨ sign = ['+']) ∧ digits ≠ [] ∧
    (∀ c ∈ digits, '0' ≤ c ∧ c ≤ '9') ∧
    n = Nat.ofDigits 10 (digits.reverse.map fun c => c.toNat - '0'.toNat) ∧ n < 2 ^ 64

theorem digitsValue_snoc (s : List Char) (c : Char) :
    digitsValue (s ++ [c]) = 10 * digitsValue s + (c.toNat - '0'.toNat) := by
  unfold digitsValue
  rw [List.foldl_append]
  rfl

theorem digitsValue_eq_ofDigits (s : List Char) :
    digitsValue s = Nat.ofDigits 10 (s.reverse.map fun c => c.toNat - '0'.toNat) := by
  induction s using List.reverseRecOn with
  | nil => rfl
  | append_singleton s c ih =>
    rw [digitsValue_snoc, ih, List.reverse_append, List.reverse_singleton, List.singleton_append,
      List.map_cons, Nat.ofDigits_cons]
    omega

theorem isDigit_iff (c : Char) : isDigit c = true ↔ '0' ≤ c ∧ c ≤ '9' := by
  simp [isDigit]

theorem unsigned_append {sign digits : List Char} (hsign : sign = [] ∨ sign = ['+'])
    (hdigits : ∀ c ∈ digits, '0' ≤ c ∧ c ≤ '9') : unsigned (sign ++ digits) = digits := by
  rcases hsign with rfl | rfl
  · cases digits with
    | nil => rfl
    | cons c rest =>
      have hplus : c ≠ '+' := by
        rintro rfl
        exact absurd (hdigits '+' (List.mem_cons_self ..)) (by decide)
      unfold unsigned
      split
      · rename_i heq
        cases heq
        exact absurd rfl hplus
      · rfl
  · rfl

theorem exists_sign (s : List Char) :
    ∃ sign, s = sign ++ unsigned s ∧ (sign = [] ∨ sign = ['+']) := by
  unfold unsigned
  split
  · exact ⟨['+'], rfl, .inr rfl⟩
  · exact ⟨[], rfl, .inl rfl⟩

/-- The condition under which the digits `digits` are read. -/
theorem readUnsigned_guard (digits : List Char) :
    (!digits.isEmpty && digits.all isDigit && decide (digitsValue digits < unsignedLimit)) = true ↔
      digits ≠ [] ∧ (∀ c ∈ digits, '0' ≤ c ∧ c ≤ '9') ∧ digitsValue digits < 2 ^ 64 := by
  simp only [Bool.and_eq_true, Bool.not_eq_true', List.isEmpty_eq_false_iff, List.all_eq_true,
    isDigit_iff, decide_eq_true_eq, and_assoc]
  rfl

theorem readUnsigned_eq_some_iff {s : List Char} {n : Nat} :
    readUnsigned s = some n ↔ Denotes s n := by
  constructor
  · intro h
    unfold readUnsigned at h
    dsimp only at h
    split at h
    · rename_i hguard
      obtain ⟨hne, hdigits, hfits⟩ := (readUnsigned_guard _).1 hguard
      obtain rfl := Option.some.inj h
      obtain ⟨sign, hs, hsign⟩ := exists_sign s
      exact ⟨sign, unsigned s, hs, hsign, hne, hdigits, digitsValue_eq_ofDigits _, hfits⟩
    · cases h
  · rintro ⟨sign, digits, rfl, hsign, hne, hdigits, rfl, hfits⟩
    rw [← digitsValue_eq_ofDigits] at hfits ⊢
    unfold readUnsigned
    dsimp only
    rw [unsigned_append hsign hdigits,
      if_pos ((readUnsigned_guard digits).2 ⟨hne, hdigits, hfits⟩)]

theorem readUnsigned_eq_none_iff {s : List Char} :
    readUnsigned s = none ↔ ¬ ∃ n, Denotes s n := by
  rw [Option.eq_none_iff_forall_ne_some, not_exists]
  exact forall_congr' fun n => not_congr readUnsigned_eq_some_iff

end ConnLease.Text
