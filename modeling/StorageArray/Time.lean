/-!
# Durations and instants

A duration is a number of nanoseconds.  An instant of the clock counts from a fixed origin
and ends where its seconds no longer fit a signed 64-bit count, so not every duration can
be added to every instant.
-/

namespace StorageArray

/-- A length of time. -/
structure Duration where
  /-- The length in nanoseconds. -/
  nanoseconds : Nat
deriving DecidableEq, Repr

namespace Duration

/-- A duration in seconds. -/
def ofSeconds (n : Nat) : Duration := ⟨n * 1000000000⟩

/-- A duration in milliseconds. -/
def ofMilliseconds (n : Nat) : Duration := ⟨n * 1000000⟩

/-- The greatest number of 64 bits. -/
def greatestWord : Nat := 18446744073709551615

/-- The duration in whole milliseconds, as a number of 64 bits: a longer one counts as the
greatest of them. -/
def milliseconds (d : Duration) : Nat := min (d.nanoseconds / 1000000) greatestWord

theorem milliseconds_le (d : Duration) : d.milliseconds ≤ greatestWord := Nat.min_le_right _ _

theorem milliseconds_ofMilliseconds {n : Nat} (h : n ≤ greatestWord) :
    (ofMilliseconds n).milliseconds = n := by
  unfold milliseconds ofMilliseconds
  rw [Nat.mul_div_cancel n (by decide)]
  exact Nat.min_eq_left h

/-- A number of nanoseconds in a unit: the whole part, and behind a point the rest without
zeros at its end. -/
def textIn (n unitSize : Nat) (unit : String) : String :=
  let rest := n % unitSize
  let width := (Nat.toDigits 10 unitSize).length - 1
  let digits := Nat.toDigits 10 rest
  let padded := List.replicate (width - digits.length) '0' ++ digits
  let kept := (padded.reverse.dropWhile (· == '0')).reverse
  let decimals := if rest = 0 then [] else '.' :: kept
  toString (n / unitSize) ++ String.ofList decimals ++ unit

/-- The duration in the largest unit of which it has at least one. -/
def text (d : Duration) : String :=
  let n := d.nanoseconds
  if 1000000000 ≤ n then textIn n 1000000000 "s"
  else if 1000000 ≤ n then textIn n 1000000 "ms"
  else if 1000 ≤ n then textIn n 1000 "µs"
  else textIn n 1 "ns"

end Duration

/-- How many nanoseconds the clock can count: its seconds have 63 bits. -/
def clockRange : Nat := 9223372036854775808 * 1000000000

/-- A point on the clock. -/
structure Instant where
  /-- Nanoseconds since the origin. -/
  nanoseconds : Nat
  /-- The clock can count them. -/
  representable : nanoseconds < clockRange

namespace Instant

/-- The instant that a reading of the clock shows, or the last one when it cannot be counted. -/
def ofReading (n : Nat) : Instant where
  nanoseconds := min n (clockRange - 1)
  representable := Nat.lt_of_le_of_lt (Nat.min_le_right _ _) (by decide)

/-- The whole seconds since the origin. -/
def seconds (t : Instant) : Nat := t.nanoseconds / 1000000000

/-- The instant a duration later, if the clock has one. -/
def after? (t : Instant) (d : Duration) : Option Instant :=
  if h : t.nanoseconds + d.nanoseconds < clockRange then
    some ⟨t.nanoseconds + d.nanoseconds, h⟩
  else none

theorem isSome_after?_iff {t : Instant} {d : Duration} :
    (t.after? d).isSome ↔ t.nanoseconds + d.nanoseconds < clockRange := by
  unfold after?
  split
  · rename_i h
    simp only [h, Option.isSome_some]
  · rename_i h
    simp only [h, Option.isSome_none, Bool.false_eq_true]

/-- For whole seconds the parts of a second do not matter. -/
theorem isSome_after?_ofSeconds_iff {t : Instant} {n : Nat} :
    (t.after? (.ofSeconds n)).isSome ↔ t.seconds + n < 9223372036854775808 := by
  rw [isSome_after?_iff]
  simp only [seconds, Duration.ofSeconds, clockRange]
  omega

end Instant

end StorageArray
