/-!
# Lines

Two readings of a text as lines.  `Line.split` breaks at every character that ends a line on paper
(line feed, carriage return, form feed, the separators and so on) and keeps the break beside the
line it ends, so that the pieces join back to the text (`Line.join_split`).  `rows` breaks at line
feeds only.
-/

namespace LozengeNav

namespace Text

/-- A character that ends a line. -/
def isBreak (c : Char) : Bool :=
  let n := c.toNat
  (0x0A ≤ n && n ≤ 0x0D) || (0x1C ≤ n && n ≤ 0x1E) || n == 0x85 || n == 0x2028 || n == 0x2029

/-- One line and the characters that end it, none at the end of a text. -/
structure Line where
  text : List Char
  ending : List Char
  deriving DecidableEq, Repr

namespace Line

def whole (l : Line) : List Char :=
  l.text ++ l.ending

def push (c : Char) : List Line → List Line
  | [] => [⟨[c], []⟩]
  | l :: ls => ⟨c :: l.text, l.ending⟩ :: ls

/-- The lines of a text.  A carriage return takes a following line feed with it; a text that ends
with a break has no empty line after it. -/
def split : List Char → List Line
  | [] => []
  | '\r' :: '\n' :: rest => ⟨[], ['\r', '\n']⟩ :: split rest
  | c :: rest => if isBreak c then ⟨[], [c]⟩ :: split rest else push c (split rest)

theorem join_push (c : Char) (ls : List Line) :
    (push c ls).flatMap whole = c :: ls.flatMap whole := by
  cases ls <;> simp [push, whole]

theorem join_split (s : List Char) : (split s).flatMap whole = s := by
  fun_induction split s with
  | case1 => rfl
  | case2 rest ih => simp [whole, ih]
  | case3 c rest _ h ih => simp [whole, ih]
  | case4 c rest _ h ih => simp [join_push, ih]

end Line

/-- The lines of a text without their endings. -/
def lines (s : List Char) : List (List Char) :=
  (Line.split s).map Line.text

def wholeLines (s : List Char) : List (List Char) :=
  (Line.split s).map Line.whole

/-- Every carriage return, with a line feed after it or not, becomes one line feed. -/
def unifyBreaks : List Char → List Char
  | [] => []
  | '\r' :: '\n' :: rest => '\n' :: unifyBreaks rest
  | c :: rest => (if c = '\r' then '\n' else c) :: unifyBreaks rest

/-- The rows of a text: it is cut at line feeds only, and has one row more than line feeds. -/
def rows (s : List Char) : List (List Char) :=
  s.splitOn '\n'

end Text

end LozengeNav
