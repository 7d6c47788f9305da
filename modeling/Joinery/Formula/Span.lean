/-!
# Places in a formula

A span is a range of character offsets, counted in code points from zero. Columns count from one. A
diagnostic points to an extent, which may lie anywhere.
-/
namespace Joinery.Formula

/-- Two offsets that a diagnostic points to; no formula need have them. -/
structure Extent where
  start : Int
  stop : Int
  deriving DecidableEq, Repr

structure Span where
  start : Nat
  stop : Nat
  deriving DecidableEq, Repr

namespace Span

/-- The column of an offset. -/
def column (offset : Nat) : Nat := offset + 1

/-- What a diagnostic about a span points to. -/
def extent (s : Span) : Extent := ⟨s.start, s.stop⟩

/-- The columns that a span covers, as text. -/
def columns (s : Span) : String := s!"{column s.start}-{column s.stop}"

/-- The span from the start of one to the stop of another, where both are known. -/
def cover : Option Span → Option Span → Option Span
  | some a, some b => some ⟨a.start, b.stop⟩
  | _, _ => none

end Span

end Joinery.Formula
