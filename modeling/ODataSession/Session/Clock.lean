/-!
# Time

Spans of time, moments and clocks, to the nanosecond. The seconds of a span are a word of 64 bits,
those of a moment count from the start of the clock and are one bit narrower, so that not every
span leads from a moment to another one. A clock that is read again shows the same moment or a later
one. Which moments it will show is part of its state: there is nothing else to be known of it.
-/

namespace ODataSession

/-- The nanoseconds in a second. -/
def nanosecondsPerSecond : Nat := 1000000000

/-- A span of time. -/
@[ext]
structure Duration where
  nanoseconds : Nat
  isLt : nanoseconds < UInt64.size * nanosecondsPerSecond
  deriving DecidableEq, Repr

namespace Duration

/-- No time at all. -/
def zero : Duration := ⟨0, by decide⟩

/-- The longest span that there is. -/
def longest : Duration := ⟨UInt64.size * nanosecondsPerSecond - 1, by decide⟩

/-- Some seconds, or as many as there can be. -/
def ofSeconds (n : Nat) : Duration where
  nanoseconds := min n (UInt64.size - 1) * nanosecondsPerSecond
  isLt := Nat.mul_lt_mul_of_pos_right (Nat.lt_of_le_of_lt (Nat.min_le_right ..) (by decide))
    (by decide)

/-- Some seconds are no time at all just if there are none of them. -/
@[simp] theorem ofSeconds_eq_zero {n : Nat} : ofSeconds n = zero ↔ n = 0 := by
  have hmost : 0 < UInt64.size - 1 := by decide
  have hsecond : 0 < nanosecondsPerSecond := by decide
  rw [Duration.ext_iff]
  change min n (UInt64.size - 1) * nanosecondsPerSecond = 0 ↔ n = 0
  rw [Nat.mul_eq_zero, or_iff_left (Nat.ne_of_gt hsecond)]
  omega

instance : LE Duration := ⟨fun d d' => d.nanoseconds ≤ d'.nanoseconds⟩

instance (d d' : Duration) : Decidable (d ≤ d') :=
  inferInstanceAs (Decidable (d.nanoseconds ≤ d'.nanoseconds))

instance : Min Duration := minOfLe

/-- The shorter of two spans is as long as the shorter one. -/
@[simp] theorem nanoseconds_min (d d' : Duration) :
    (min d d').nanoseconds = min d.nanoseconds d'.nanoseconds :=
  apply_ite nanoseconds (d ≤ d') d d'

end Duration

/-- The nanoseconds that can be counted from the start of the clock. -/
def Instant.size : Nat := UInt64.size / 2 * nanosecondsPerSecond

/-- A moment, told by the time since the start of the clock. -/
structure Instant where
  nanoseconds : Nat
  isLt : nanoseconds < Instant.size
  deriving DecidableEq, Repr

namespace Instant

/-- The start of the clock. -/
def origin : Instant := ⟨0, by decide⟩

instance : Inhabited Instant := ⟨origin⟩

instance : LE Instant := ⟨fun t t' => t.nanoseconds ≤ t'.nanoseconds⟩

instance : LT Instant := ⟨fun t t' => t.nanoseconds < t'.nanoseconds⟩

instance (t t' : Instant) : Decidable (t ≤ t') :=
  inferInstanceAs (Decidable (t.nanoseconds ≤ t'.nanoseconds))

instance (t t' : Instant) : Decidable (t < t') :=
  inferInstanceAs (Decidable (t.nanoseconds < t'.nanoseconds))

/-- The moment that comes some time after another one, if there is such a moment. -/
def after? (t : Instant) (d : Duration) : Option Instant :=
  if h : t.nanoseconds + d.nanoseconds < size then some ⟨_, h⟩ else none

end Instant

/-- A clock: the moment it was last seen to show, and those that it will show at the readings to
come. Behind the last of them it stands still. -/
structure Clock where
  now : Instant
  upcoming : List Instant
  ascending : (now :: upcoming).Pairwise (· ≤ ·)
  deriving DecidableEq

namespace Clock

/-- A clock that stands still. -/
def still (t : Instant) : Clock := ⟨t, [], List.pairwise_singleton ..⟩

/-- Reads a clock. -/
def read : Clock → Instant × Clock
  | ⟨now, [], h⟩ => (now, ⟨now, [], h⟩)
  | ⟨_, t :: upcoming, h⟩ => (t, ⟨t, upcoming, h.tail⟩)

end Clock

end ODataSession
