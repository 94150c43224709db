/-!
# Spans

The place of a piece of filter text: the bytes from `start` up to `stop`, and the line and column
of its first character.
-/

namespace RecordFilter

structure Span where
  start : Nat
  stop : Nat
  line : Nat
  column : Nat
deriving DecidableEq, Repr

namespace Span

def length (s : Span) : Nat :=
  s.stop - s.start

def isEmpty (s : Span) : Bool :=
  s.length == 0

/-- The smallest span over both, placed where the earlier one starts; of two that start together
the first counts. -/
def merge (s t : Span) : Span :=
  let first := if s.start ≤ t.start then s else t
  ⟨min s.start t.start, max s.stop t.stop, first.line, first.column⟩

/-- The empty span past the end. Columns are 64-bit words. -/
def past (s : Span) : Span :=
  ⟨s.stop, s.stop, s.line, (s.column + s.length) % Nat.pow 2 64⟩

end Span

end RecordFilter
