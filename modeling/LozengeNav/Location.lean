import LozengeNav.Fault

/-!
# Places in documents

Positions, ranges and locations.  Lines and columns count from zero and columns count code points.
-/

namespace LozengeNav

/-- A place between two characters of a document. -/
structure Position where
  line : Nat
  column : Nat
  deriving DecidableEq, Repr, Inhabited

namespace Position

def origin : Position :=
  ⟨0, 0⟩

/-- The place behind some text that begins at a place; line feeds end lines. -/
def advance (p : Position) (text : List Char) : Position :=
  text.foldl (fun p c => if c = '\n' then ⟨p.line + 1, 0⟩ else ⟨p.line, p.column + 1⟩) p

/-- The largest line or column that a position may name. -/
def limit : Int :=
  2147483647

/-- Whether a number may stand as a line or column. -/
def admits (n : Int) : Bool :=
  0 ≤ n && n ≤ limit

/-- The position of a line and a column, which have to be in range. -/
def ofInts (line column : Int) : Except Fault Position :=
  if !admits line then .error (.badPosition .line line)
  else if !admits column then .error (.badPosition .character column)
  else .ok ⟨line.toNat, column.toNat⟩

end Position

structure Span where
  start : Position
  stop : Position
  deriving DecidableEq, Repr, Inhabited

namespace Span

/-- The empty span at the first place of a document. -/
def origin : Span :=
  ⟨.origin, .origin⟩

/-- Whether a line lies between the first and last line of a span, both included. -/
def bracketsLine (s : Span) (line : Int) : Bool :=
  s.start.line ≤ line && line ≤ s.stop.line

end Span

structure Location where
  uri : String
  span : Span
  deriving DecidableEq, Repr, Inhabited

namespace Location

def fileStart (uri : String) : Location :=
  ⟨uri, .origin⟩

end Location

end LozengeNav
