/-!
# Spans of time and readings of a clock

`ConnPool.Duration` is a span of time and `ConnPool.Instant` a reading of a clock,
both exact numbers of nanoseconds. A pool only ever asks how long ago a reading was
taken (`ConnPool.Instant.since`), and a reading that lies ahead of the present was
taken no time ago at all.

`ConnPool.Duration.text` writes a span in the largest of the units `s`, `ms`, `µs`,
`ns` of which it holds at least one, with the exact decimal fraction and no trailing
zeros: `600s`, `1.5s`, `999.999µs`, `0ns`.
-/

namespace ConnPool

/-! ### Durations -/

/-- A span of time. -/
structure Duration where
  /-- Its length in nanoseconds. -/
  nanos : Nat
  deriving DecidableEq, Inhabited

namespace Duration

/-- The empty span. -/
def zero : Duration := ⟨0⟩

/-- A number of whole seconds and some nanoseconds. -/
def ofSecsNanos (secs nanos : Nat) : Duration := ⟨secs * 1000000000 + nanos⟩

/-- A number of whole seconds. -/
def ofSecs (secs : Nat) : Duration := ofSecsNanos secs 0

/-- A number of whole milliseconds. -/
def ofMillis (millis : Nat) : Duration := ⟨millis * 1000000⟩

/-- A span a number of times over. -/
def times (d : Duration) (k : Nat) : Duration := ⟨k * d.nanos⟩

/-- The fewest whole milliseconds that are no shorter than a span. -/
def ceilMillis (d : Duration) : Nat := (d.nanos + 999999) / 1000000

/-- The longer of two spans. -/
def max (d e : Duration) : Duration := ⟨Nat.max d.nanos e.nanos⟩

/-- The shorter of two spans. -/
def min (d e : Duration) : Duration := ⟨Nat.min d.nanos e.nanos⟩

instance : LE Duration := ⟨fun d e => d.nanos ≤ e.nanos⟩

instance (d e : Duration) : Decidable (d ≤ e) := inferInstanceAs (Decidable (d.nanos ≤ e.nanos))

/-! ### The text of a duration -/

/-- A unit in which spans are written. -/
structure TimeUnit where
  /-- The symbol written after the number. -/
  symbol : String
  /-- How many digits after the point a nanosecond has in this unit. -/
  places : Nat

/-- The unit a span is written in: the largest of which it holds at least one. -/
def timeUnit (d : Duration) : TimeUnit :=
  if 1000000000 ≤ d.nanos then ⟨"s", 9⟩
  else if 1000000 ≤ d.nanos then ⟨"ms", 6⟩
  else if 1000 ≤ d.nanos then ⟨"µs", 3⟩
  else ⟨"ns", 0⟩

/-- The digits of `n` out of `places` after a decimal point, without trailing zeros. -/
def fractionDigits (places n : Nat) : List Char :=
  let digits := Nat.toDigits 10 n
  let padded := List.replicate (places - digits.length) '0' ++ digits
  (padded.reverse.dropWhile (· = '0')).reverse

/-- The exact decimal text of a span, in its unit. -/
def text (d : Duration) : String :=
  let unit := d.timeUnit
  let whole := toString (d.nanos / Nat.pow 10 unit.places)
  match fractionDigits unit.places (d.nanos % Nat.pow 10 unit.places) with
  | [] => whole ++ unit.symbol
  | digits => whole ++ "." ++ String.ofList digits ++ unit.symbol

end Duration

/-! ### Instants -/

/-- A reading of a clock. -/
structure Instant where
  /-- The nanoseconds from the clock's start to the reading. -/
  nanos : Nat
  deriving DecidableEq, Inhabited

namespace Instant

/-- The start of a clock. -/
def start : Instant := ⟨0⟩

/-- The reading a span of time later. -/
def add (t : Instant) (d : Duration) : Instant := ⟨t.nanos + d.nanos⟩

instance : HAdd Instant Duration Instant := ⟨add⟩

/-- How long before `now` a reading was taken: nothing, if it lies ahead of `now`. -/
def since (now past : Instant) : Duration := ⟨now.nanos - past.nanos⟩

instance : LE Instant := ⟨fun t u => t.nanos ≤ u.nanos⟩

instance (t u : Instant) : Decidable (t ≤ u) := inferInstanceAs (Decidable (t.nanos ≤ u.nanos))

instance : LT Instant := ⟨fun t u => t.nanos < u.nanos⟩

instance (t u : Instant) : Decidable (t < u) := inferInstanceAs (Decidable (t.nanos < u.nanos))

end Instant

end ConnPool
