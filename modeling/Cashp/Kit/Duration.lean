import Mathlib.Algebra.Group.Nat.Defs
import Mathlib.Algebra.Ring.Int.Defs

/-!
Instants are unbounded counts of nanoseconds, durations signed 64-bit ones. Subtracting instants
saturates, arithmetic on durations wraps.
-/

namespace Kit.Duration

def longest : Int := 2 ^ 63 - 1

def shortest : Int := -2 ^ 63

/-- How `time.Time.Sub` saturates. -/
def between (earlier later : Int) : Int := max shortest (min longest (later - earlier))

def wrap (length : Int) : Int := length.bmod (2 ^ 64)

def magnitude (length : Int) : Int := if length < 0 then wrap (-length) else length

def second : Int := 10 ^ 9

def minute : Int := 60 * second

def zeroTime : Int := -62135596800 * second

/-- Durations that fit into 64 bits do not wrap. -/
theorem wrap_of_fits {length : Int} (low : shortest ≤ length) (high : length ≤ longest) :
    wrap length = length := by
  simp only [shortest, longest] at low high
  exact Int.bmod_eq_of_le (by omega) (by omega)

theorem ahead_le_magnitude {instant now : Int} (fits : instant - now ≤ longest) :
    instant - now ≤ magnitude (between instant now) := by
  have long : longest = 2 ^ 63 - 1 := rfl
  have short : shortest = -2 ^ 63 := rfl
  unfold magnitude between
  grind [wrap]

end Kit.Duration
