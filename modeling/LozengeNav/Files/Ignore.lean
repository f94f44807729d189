import LozengeNav.Files.Tree
import LozengeNav.Text.Blank

/-!
# Ignore files

The rules of an ignore file.  A rule is a pattern for paths within the directory of its file; it is
searched for, so that it may match a part of a path.  A rule behind a `!` brings back what earlier
rules hide.  A rule that is used up before it is read to its end, and a rule with a set of characters
that cannot be read, are faults, the former when the file is read, the latter when the rule is used.
-/

namespace LozengeNav

namespace Ignore

/-- A set of characters in a pattern. -/
structure CharSet where
  negated : Bool
  ranges : List (Char × Char)
  deriving DecidableEq, Repr

/-- A part of a pattern as it is written. -/
inductive Piece where
  | char (c : Char)
  /-- Any character that is no slash. -/
  | any
  /-- A run of characters that are no slashes. -/
  | run
  | deepRun
  /-- A run of characters in one line that ends with a slash, or nothing. -/
  | directories
  /-- A character of a set, or of none of it. -/
  | set (negated : Bool) (body : List Char)
  deriving DecidableEq, Repr

/-- A part of a pattern as it is matched. -/
inductive Part where
  | one (s : CharSet)
  | many (s : CharSet)
  /-- A run of characters in one line that ends with a slash, or nothing. -/
  | directories
  deriving DecidableEq, Repr

structure Rule where
  /-- The parts of the pattern; none if its sets cannot be read. -/
  parts : Option (List Part)
  negated : Bool
  directory : Bool
  /-- The pattern matches at the start of a path only. -/
  anchored : Bool
  deriving DecidableEq, Repr

/-! ## Reading rules -/

/-- A run of two or more stars behind a character that is no slash becomes one star.  The character
may be a star itself; `skip` stars have been read. -/
def shortenBehind (skip : Bool) : List Char → List Char
  | [] => []
  | c :: rest =>
    if skip && c = '*' then shortenBehind true rest
    else if c ≠ '/' && ['*', '*'].isPrefixOf rest then c :: '*' :: shortenBehind true rest
    else c :: shortenBehind false rest

/-- A run of two or more stars in front of a character that is no slash becomes one star.  The
character may be the last star of the run. -/
def shortenBefore (skip : Nat) : List Char → List Char
  | [] => []
  | c :: rest =>
    match skip with
    | skip + 1 => shortenBefore skip rest
    | 0 =>
      let stars := (c :: rest).takeWhile (· = '*')
      let after := ((c :: rest).drop stars.length).head?
      if 2 ≤ stars.length && after.any (· ≠ '/') then
        '*' :: after.toList ++ shortenBefore stars.length rest
      else if 3 ≤ stars.length then '*' :: '*' :: shortenBefore (stars.length - 1) rest
      else c :: shortenBefore 0 rest

def dropSlash : List Char → List Char
  | '/' :: rest => rest
  | s => s

/-- Drop blanks at the end of a pattern that is written backwards.  A blank behind a backslash stays
and the backslash goes; the first two characters are not looked at.  What has been kept is `tail`. -/
def dropBlanks (tail : List Char) (strip : Bool) : List Char → List Char
  | ' ' :: before :: c :: rest =>
    if before = '\\' then dropBlanks (' ' :: tail) false (c :: rest)
    else dropBlanks (if strip then tail else ' ' :: tail) strip (before :: c :: rest)
  | s => s.reverse ++ tail
termination_by s => s.length

/-- The set between brackets, of which slashes are no part.  A set without any character is a
fault. -/
def setOf (body : List Char) : Except Fault Piece :=
  match body.filter (· ≠ '/') with
  | [] => .error .brokenRule
  | '!' :: rest => .ok (.set true rest)
  | rest => .ok (.set false rest)

/-- The length of the set that begins behind a bracket, none if the bracket is not closed. -/
def setLength? (s : List Char) : Option Nat :=
  let lead := if s.head? = some '!' then 1 else 0
  let lead := if (s.drop lead).head? = some ']' then lead + 1 else lead
  let rest := s.drop lead
  let inner := rest.takeWhile (· ≠ ']')
  if inner.length < rest.length then some (lead + inner.length) else none

/-- The parts of a pattern; the first `skip` characters have been read. -/
def piecesOf (skip : Nat) : List Char → Except Fault (List Piece)
  | [] => .ok []
  | c :: rest =>
    match skip with
    | skip + 1 => piecesOf skip rest
    | 0 => do
      if c = '*' then
        match rest with
        | '*' :: '/' :: _ => return .directories :: (← piecesOf 2 rest)
        | '*' :: _ => return .deepRun :: (← piecesOf 1 rest)
        | _ => return .run :: (← piecesOf 0 rest)
      else if c = '?' then return .any :: (← piecesOf 0 rest)
      else if c = '[' then
        match setLength? rest with
        | some n => return (← setOf (rest.take n)) :: (← piecesOf (n + 1) rest)
        | none => return .char c :: (← piecesOf 0 rest)
      else return .char c :: (← piecesOf 0 rest)

/-! ## Sets -/

/-- A character in a set; only a hyphen that was written there may make a range. -/
inductive Mark where
  | plain (c : Char)
  | hyphen
  deriving DecidableEq, Repr

namespace Mark

def char : Mark → Char
  | plain c => c
  | hyphen => '-'

def ofChar (c : Char) : Mark :=
  if c = '-' then hyphen else plain c

end Mark

/-- The ranges of a set; none if a range ends before it begins. -/
def rangesOf? : List Mark → Option (List (Char × Char))
  | low :: .hyphen :: high :: rest =>
    if high.char < low.char then none else (rangesOf? rest).map ((low.char, high.char) :: ·)
  | m :: rest => (rangesOf? rest).map ((m.char, m.char) :: ·)
  | [] => some []

namespace CharSet

def single (c : Char) : CharSet :=
  ⟨false, [(c, c)]⟩

/-- All characters but one. -/
def except (c : Char) : CharSet :=
  ⟨true, [(c, c)]⟩

/-- The set of some marks; none if it cannot be read. -/
def ofMarks? (negated : Bool) (marks : List Mark) : Option CharSet :=
  (rangesOf? marks).map fun ranges => ⟨negated, ranges⟩

def admits (s : CharSet) (c : Char) : Bool :=
  s.negated != s.ranges.any fun r => r.1 ≤ c && c ≤ r.2

end CharSet

/-- The marks of a set inside of another, up to the bracket that closes both. -/
def innerMarks (negated : Bool) (body : List Char) : List Mark :=
  .plain '[' :: (if negated then [.plain '^'] else []) ++
    (body.takeWhile (· ≠ ']')).map Mark.ofChar

/-- The set between brackets that are written out; one of nothing is none. -/
def plainSet? : List Char → Option CharSet
  | [] => none
  | ['^'] => none
  | '^' :: rest => CharSet.ofMarks? true (rest.map Mark.ofChar)
  | rest => CharSet.ofMarks? false (rest.map Mark.ofChar)

/-- What is left of a set inside of another when a bracket at its start has closed both: characters,
or characters and a set again. -/
def behindBracket? (body : List Char) : Option (List Part) :=
  match body with
  | ']' :: rest =>
    let plain := (rest.takeWhile (· ≠ '[')).map fun c => Part.one (.single c)
    match rest.dropWhile (· ≠ '[') with
    | [] => some (plain ++ [.one (.single ']')])
    | _ :: inner => (plainSet? inner).map fun s => plain ++ [.one s]
  | _ => some []

/-- The parts that some pieces are matched by.  A negated set of nothing goes on up to the next closing
bracket of another set or of what stands for a character that is no slash; `within` holds what has been
read of it. -/
def partsOf? (within : Option (List Mark)) : List Piece → Option (List Part)
  | [] => if within.isNone then some [] else none
  | p :: rest =>
    match within, p with
    | none, .char c => (partsOf? none rest).map (.one (.single c) :: ·)
    | none, .any => (partsOf? none rest).map (.one (.except '/') :: ·)
    | none, .run => (partsOf? none rest).map (.many (.except '/') :: ·)
    | none, .deepRun => (partsOf? none rest).map (.many (.except '\n') :: ·)
    | none, .directories => (partsOf? none rest).map (.directories :: ·)
    | none, .set true [] => partsOf? (some [.plain ']']) rest
    | none, .set negated body => do
      let s ← CharSet.ofMarks? negated (body.map Mark.ofChar)
      return .one s :: (← partsOf? none rest)
    | some marks, .char c =>
      if c = '/' then do
        let s ← CharSet.ofMarks? true (marks ++ [.plain '[', .plain '/'])
        return .one s :: (← partsOf? none rest)
      else partsOf? (some (marks ++ [.plain c])) rest
    | some marks, .any => do
      let s ← CharSet.ofMarks? true (marks ++ [.plain '[', .plain '^', .plain '/'])
      return .one s :: (← partsOf? none rest)
    | some marks, .run => do
      let s ← CharSet.ofMarks? true (marks ++ [.plain '[', .plain '^', .plain '/'])
      return .many s :: (← partsOf? none rest)
    | some marks, .deepRun => partsOf? (some (marks ++ [.plain '.', .plain '*'])) rest
    | some _, .directories => none
    | some marks, .set negated body => do
      let s ← CharSet.ofMarks? true (marks ++ innerMarks negated body)
      return .one s :: ((← behindBracket? body) ++ (← partsOf? none rest))

/-! ## Rules -/

/-- The first character of a pattern that is not used up. -/
def first (s : List Char) : Except Fault Char :=
  match s with
  | c :: _ => .ok c
  | [] => .error .brokenRule

/-- Drop two stars at the start; what is left matches anywhere. -/
def dropStars (s : List Char) (anchored : Bool) : List Char × Bool :=
  match s with
  | '*' :: '*' :: rest => (rest, false)
  | _ => (s, anchored)

/-- Drop the backslash that a sign at the start is protected by. -/
def dropProtection (s : List Char) : Except Fault (List Char) :=
  match s with
  | ['\\'] => .error .brokenRule
  | '\\' :: c :: rest => .ok (if c = '#' || c = '!' then c :: rest else s)
  | _ => .ok s

/-- Read the rule behind an optional `!`. -/
def Rule.ofPattern (negated : Bool) (s : List Char) : Except Fault (Option Rule) := do
  let s := shortenBefore 0 (shortenBehind false s)
  if Text.trimRight s = ['/'] then return none
  let _ ← first s
  let directory := s.getLast? = some '/'
  let anchored := s.dropLast.contains '/'
  let s := dropSlash s
  let _ ← first s
  let (s, anchored) := dropStars s anchored
  let _ ← first s
  let s := dropSlash s
  let _ ← first s
  let s := if s.getLast? = some '/' then s.dropLast else s
  let _ ← first s
  let s ← dropProtection s
  let pieces ← piecesOf 0 (dropBlanks [] true s.reverse)
  return some ⟨partsOf? none pieces, negated, directory, anchored⟩

/-- Read a line; blank lines and comments are no rules. -/
def Rule.ofLine (s : List Char) : Except Fault (Option Rule) :=
  if Text.allBlank s then .ok none
  else
    match s with
    | '#' :: _ => .ok none
    | '!' :: rest => Rule.ofPattern true rest
    | _ => Rule.ofPattern false s

def rulesOf (text : List Char) : Except Fault (List Rule) := do
  return (← (Text.rows text).mapM Rule.ofLine).filterMap id

/-! ## Matching -/

/-- What may stand behind the part of a path that a rule matches. -/
def endsMatch (r : Rule) (s : List Char) : Bool :=
  if !r.directory then s = [] || s = ['\n']
  else if r.negated then s = ['/'] || s = ['/', '\n']
  else s = [] || s = ['\n'] || s.head? = some '/'

/-- The number of parts, with a run of directories counted as its two parts and itself. -/
def weight : List Part → Nat
  | [] => 0
  | .directories :: rest => weight rest + 3
  | _ :: rest => weight rest + 1

/-- Whether parts match at the start of a text and `ends` holds for what follows. -/
def matchesAt (ends : List Char → Bool) (parts : List Part) (s : List Char) : Bool :=
  match parts, s with
  | [], s => ends s
  | .many _ :: parts, [] => matchesAt ends parts []
  | .many set :: parts, c :: rest =>
    matchesAt ends parts (c :: rest) || (set.admits c && matchesAt ends (.many set :: parts) rest)
  | .directories :: parts, s =>
    matchesAt ends parts s ||
      matchesAt ends (.many (.except '\n') :: .one (.single '/') :: parts) s
  | .one set :: parts, c :: rest => set.admits c && matchesAt ends parts rest
  | .one _ :: _, [] => false
termination_by (weight parts, s.length)
decreasing_by all_goals simp [weight, Prod.lex_def]

/-- The parts of a path behind each slash, and the path itself. -/
def starts (s : List Char) : List (List Char) :=
  match s with
  | [] => [[]]
  | c :: rest => (c :: rest) :: behindSlashes (c :: rest)
where
  behindSlashes : List Char → List (List Char)
    | [] => []
    | c :: rest => if c = '/' then rest :: behindSlashes rest else behindSlashes rest

namespace Rule

/-- Whether a rule matches a path, relative to the directory of the rule. -/
def fits (r : Rule) (path : List Char) : Except Fault Bool :=
  match r.parts with
  | none => .error .brokenClass
  | some parts =>
    if r.anchored then .ok (matchesAt (endsMatch r) parts path)
    else .ok ((starts path).any (matchesAt (endsMatch r) parts))

end Rule

def firstFit (path : List Char) : List Rule → Except Fault (Option Rule)
  | [] => .ok none
  | r :: rest => do
    if ← r.fits path then return some r else firstFit path rest

/-- Whether rules hide a path.  If none of them is negated, each match hides; otherwise the last
match decides. -/
def hides (rules : List Rule) (path : List Char) : Except Fault Bool := do
  if rules.any Rule.negated then
    return match ← firstFit path rules.reverse with
      | some r => !r.negated
      | none => false
  else return (← firstFit path rules).isSome

structure Matcher where
  directory : Path
  rules : List Rule
  deriving Repr

namespace Matcher

def ofFile (t : FileTree) (file : Path) : Except Fault Matcher := do
  let rules ← rulesOf (← t.readText file)
  return ⟨t.absolute file.parent, rules⟩

/-- Whether a path is hidden.  A path outside of the directory is a fault if there are rules. -/
def hides (t : FileTree) (m : Matcher) (path : Path) : Except Fault Bool :=
  if m.rules.isEmpty then .ok false
  else
    let path := t.absolute path
    match path.relativeTo? m.directory with
    | some relative => Ignore.hides m.rules relative.toString.toList
    | none => .error (.outsideDirectory path.toString m.directory.toString)

end Matcher

end Ignore

end LozengeNav
