import LozengeNav.Location
import LozengeNav.Text.Line
import LozengeNav.Text.Units

/-!
# Positions in units

Positions within a document as the two ends of a session tell them to each other, in units of the
encoding they agreed on, and as navigation holds them, in code points.  Lines are kept with their
endings.
-/

namespace LozengeNav

namespace Position

open Text

/-- The position that the other end means.  A line behind the last one stands for the end of the
document, which is left in units; a column behind the end of its line stands for the last unit. -/
def ofUnits (e : Encoding) (lines : List (List Char)) (p : Position) : Position :=
  match lines.getLast? with
  | none => .origin
  | some last =>
    match lines[p.line]? with
    | none => ⟨lines.length - 1, units e last⟩
    | some line =>
      let text := unifyBreaks line
      let total := units e text
      ⟨p.line, charsWithin e (if total < p.column then total - 1 else p.column) text⟩

/-- The position as it is told to the other end.  A line behind the last one stands for the start of
the line after it. -/
def toUnits (e : Encoding) (lines : List (List Char)) (p : Position) : Position :=
  match lines[p.line]? with
  | none => ⟨lines.length, 0⟩
  | some line => ⟨p.line, units e (line.take p.column)⟩

end Position

namespace Span

open Text

def ofUnits (e : Encoding) (lines : List (List Char)) (s : Span) : Span :=
  ⟨s.start.ofUnits e lines, s.stop.ofUnits e lines⟩

def toUnits (e : Encoding) (lines : List (List Char)) (s : Span) : Span :=
  ⟨s.start.toUnits e lines, s.stop.toUnits e lines⟩

end Span

end LozengeNav
