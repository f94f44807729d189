import LozengeNav.Protocol.Units

/-!
# Changes of documents

How an editor tells that the text of a document has changed: by the whole new text, or by a text that
comes in place of a part.
-/

namespace LozengeNav

namespace Editor

open Text

/-- A change of a document.  Without a span the text is all of the document; with one, it comes in
place of that part, whose places are in units. -/
structure Change where
  span : Option Span
  text : List Char
  deriving DecidableEq, Repr

namespace Change

/-- A text in place of a part of some lines. -/
def splice (lines : List (List Char)) (s : Span) (text : List Char) : List Char :=
  lines.zipIdx.flatMap fun (line, i) =>
    if i < s.start.line || s.stop.line < i then line
    else
      (if i = s.start.line then line.take s.start.column ++ text else []) ++
        (if i = s.stop.line then line.drop s.stop.column else [])

def apply (e : Encoding) (c : Change) (source : List Char) : List Char :=
  match c.span with
  | none => c.text
  | some span =>
    let lines := wholeLines source
    let s := span.ofUnits e lines
    if s.start.line = lines.length then source ++ c.text else splice lines s c.text

end Change

end Editor

end LozengeNav
