/-!
# Durations

Lengths of time in nanoseconds. As text a duration stands in the largest of four units that it
reaches, with as many decimals as it needs and no more.
-/

namespace ConnLease

structure Duration where
  nanos : Nat
deriving Repr, DecidableEq

namespace Duration

def zero : Duration := ⟨0⟩

def ofMillis (ms : Nat) : Duration := ⟨ms * 1000000⟩

/-- The whole milliseconds that a duration takes, a part of one counted as one. -/
def ceilMillis (d : Duration) : Nat := (d.nanos + 999999) / 1000000

theorem ceilMillis_ofMillis (ms : Nat) : (ofMillis ms).ceilMillis = ms := by
  unfold ceilMillis ofMillis
  dsimp only
  omega

theorem ceilMillis_eq_zero_iff {d : Duration} : d.ceilMillis = 0 ↔ d = zero := by
  obtain ⟨nanos⟩ := d
  simp only [ceilMillis, zero, mk.injEq]
  omega

/-- The decimals of a fraction `part / 10 ^ places`, without zeros at the end. -/
def decimals (part places : Nat) : List Char :=
  let digits := Nat.toDigits 10 part
  let padded := List.replicate (places - digits.length) '0' ++ digits
  (padded.reverse.dropWhile (· == '0')).reverse

/-- A multiple of a unit that is `10 ^ places` nanoseconds long. -/
def inUnit (nanos places : Nat) (unit : String) : String :=
  let whole := toString (nanos / Nat.pow 10 places)
  match decimals (nanos % Nat.pow 10 places) places with
  | [] => whole ++ unit
  | fraction => whole ++ "." ++ String.ofList fraction ++ unit

def text (d : Duration) : String :=
  if 1000000000 ≤ d.nanos then inUnit d.nanos 9 "s"
  else if 1000000 ≤ d.nanos then inUnit d.nanos 6 "ms"
  else if 1000 ≤ d.nanos then inUnit d.nanos 3 "µs"
  else inUnit d.nanos 0 "ns"

end Duration

end ConnLease
