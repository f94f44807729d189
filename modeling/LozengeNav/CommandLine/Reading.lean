import LozengeNav.CommandLine.Help
import LozengeNav.Text.Digit
import LozengeNav.Text.Quoted

/-!
# Reading command lines

How the words of a command line are understood.  A word that begins with a dash is an option, and may
be shortened as long as it is plain which option is meant; it is an argument if it looks like a
negative number or holds a blank.  Two dashes alone make all words behind them arguments.  Options and
arguments may be mixed; what nothing takes is left over.
-/

namespace LozengeNav

namespace CommandLine

/-- Why the words of a command line are refused. -/
inductive Complaint where
  | ambiguous (word : String) (names : List String)
  | valueExpected (name : String)
  | valueIgnored (name value : String)
  | badChoice (name value : String) (choices : List String)
  | badNumber (name value : String)
  | required (names : List String)
  | leftOver (words : List String)
  deriving DecidableEq, Repr

namespace Complaint

def message : Complaint → String
  | ambiguous word names =>
    "ambiguous option: " ++ word ++ " could match " ++ ", ".intercalate names
  | valueExpected name => "argument " ++ name ++ ": expected one argument"
  | valueIgnored name value =>
    "argument " ++ name ++ ": ignored explicit argument " ++ Text.quoted value
  | badChoice name value choices =>
    "argument " ++ name ++ ": invalid choice: " ++ Text.quoted value ++ " (choose from " ++
      ", ".intercalate (choices.map Text.quoted) ++ ")"
  | badNumber name value => "argument " ++ name ++ ": invalid int value: " ++ Text.quoted value
  | required names => "the following arguments are required: " ++ ", ".intercalate names
  | leftOver words => "unrecognized arguments: " ++ " ".intercalate words

end Complaint

inductive Stop where
  | help (text : String)
  | complaint (program : String) (c : Complaint)
  deriving DecidableEq, Repr

/-! ## Words -/

/-- A value written into the same word as its option, behind an equals sign or right behind a single
letter. -/
structure Attached where
  separated : Bool
  text : String
  deriving DecidableEq, Repr

/-- An option that a word stands for. -/
structure Hit where
  flag : Flag
  spelling : String
  attached : Option Attached
  deriving DecidableEq, Repr

inductive Token where
  | word (s : String)
  | separator
  /-- A word that looks like an option, and the option that it stands for, if any. -/
  | flag (raw : String) (hit : Option Hit)
  deriving DecidableEq, Repr

namespace Token

def dashes : String :=
  "--"

def raw : Token → String
  | word s => s
  | separator => dashes
  | flag s _ => s

def isFlag : Token → Bool
  | flag .. => true
  | _ => false

def isWord : Token → Bool
  | word _ => true
  | _ => false

end Token

/-- Whether a text is a negative number, with or without a fraction; a line feed may follow. -/
def isNegativeNumber (s : List Char) : Bool :=
  match (if s.getLast? = some '\n' then s.dropLast else s) with
  | '-' :: body =>
    let isDigit (c : Char) : Bool := (Text.digitValue? c).isSome
    match body.dropWhile isDigit with
    | [] => !body.isEmpty
    | '.' :: fraction => !fraction.isEmpty && fraction.all isDigit
    | _ => false
  | _ => false

def spellings (flags : List Flag) : List (String × Flag) :=
  flags.flatMap fun f => f.names.map fun name => (name, f)

def splitEquals (s : List Char) : List Char × Option (List Char) :=
  match s.dropWhile (· ≠ '=') with
  | _ :: rest => (s.takeWhile (· ≠ '='), some rest)
  | [] => (s, none)

/-- The options that a word may be a short form of. -/
def shortened (flags : List Flag) (s : List Char) : List Hit :=
  match s with
  | '-' :: '-' :: _ =>
    let (start, value) := splitEquals s
    (spellings flags).filterMap fun (name, flag) =>
      if start.isPrefixOf name.toList then
        some ⟨flag, name, value.map fun v => ⟨true, String.ofList v⟩⟩
      else none
  | _ =>
    (spellings flags).filterMap fun (name, flag) =>
      if name.toList = s.take 2 then some ⟨flag, name, some ⟨false, String.ofList (s.drop 2)⟩⟩
      else if s.isPrefixOf name.toList then some ⟨flag, name, none⟩
      else none

def classifyDashed (flags : List Flag) (s : List Char) : Except Complaint Token :=
  let raw := String.ofList s
  match (spellings flags).lookup raw with
  | some flag => .ok (.flag raw (some ⟨flag, raw, none⟩))
  | none =>
    if s.length = 1 then .ok (.word raw)
    else
      let (start, value) := splitEquals s
      let exact := value.bind fun v =>
        ((spellings flags).lookup (String.ofList start)).map fun flag =>
          (⟨flag, String.ofList start, some ⟨true, String.ofList v⟩⟩ : Hit)
      match exact with
      | some hit => .ok (.flag raw (some hit))
      | none =>
        match shortened flags s with
        | [hit] => .ok (.flag raw (some hit))
        | [] =>
          if isNegativeNumber s || s.contains ' ' then .ok (.word raw)
          else .ok (.flag raw none)
        | hits => .error (.ambiguous raw (hits.map Hit.spelling))

def classify (flags : List Flag) (word : String) : Except Complaint Token :=
  match word.toList with
  | '-' :: rest => classifyDashed flags ('-' :: rest)
  | _ => .ok (.word word)

def tokens (flags : List Flag) : List String → Except Complaint (List Token)
  | [] => .ok []
  | word :: rest =>
    if word = Token.dashes then .ok (.separator :: rest.map .word)
    else do
      let token ← classify flags word
      return token :: (← tokens flags rest)

/-! ## Arguments -/

structure Reading where
  /-- The values of options, the latest first. -/
  values : List (String × String)
  /-- The arguments in order.  One that consists of two dashes alone has no value. -/
  arguments : List (Option String)
  /-- The words of a further command, its name first. -/
  command : Option (List String)
  leftOver : List String
  deriving DecidableEq, Repr

namespace Reading

def empty : Reading :=
  ⟨[], [], none, []⟩

def value? (r : Reading) (name : String) : Option String :=
  r.values.lookup name

def argument? (r : Reading) (index : Nat) : Option String :=
  (r.arguments[index]?).join

end Reading

/-- Some tokens up to the first that does not satisfy a test, and the rest. -/
def separators (ts : List Token) : List Token × List Token :=
  ts.span fun t => t = .separator

/-- The tokens of one argument, separators around it included, and the rest. -/
def takeArgument (ts : List Token) : Option (List Token × List Token) :=
  let (before, rest) := separators ts
  match rest with
  | t :: rest =>
    if t.isWord then
      let (after, rest) := separators rest
      some (before ++ t :: after, rest)
    else none
  | [] => none

/-- The value of an argument: what is left when the first two dashes are dropped. -/
def argumentValue (ts : List Token) : Option String :=
  ((ts.map Token.raw).erase Token.dashes).head?

/-- Give some tokens to arguments, as far as there are both. -/
def fill : List Slot → List Token → List (Slot × Option String) × List Slot × List Token
  | [], ts => ([], [], ts)
  | slot :: slots, ts =>
    match takeArgument ts with
    | none => ([], slot :: slots, ts)
    | some (taken, rest) =>
      let (filled, slots, left) := fill slots rest
      ((slot, argumentValue taken) :: filled, slots, left)

def checkArgument (slot : Slot) : Option String → Except Complaint Unit
  | none => .ok ()
  | some value =>
    if slot.isNumber && (Text.readInt? value.toList).isNone then .error (.badNumber slot.name value)
    else .ok ()

/-! ## Options -/

def checkValue (f : Flag) (value : String) : Except Complaint Unit :=
  if f.choices.isEmpty || f.choices.contains value then .ok ()
  else .error (.badChoice f.name value f.choices)

/-- Refuse what is attached to a letter that asks for help, unless it is further letters. -/
def checkLetters (flags : List Flag) (flag : Flag) : Bool → List Char → Except Complaint Unit
  | _, [] => .error (.valueIgnored flag.name "")
  | separated, c :: rest =>
    if separated || c = '-' then .error (.valueIgnored flag.name (String.ofList (c :: rest)))
    else
      match (spellings flags).lookup (String.ofList ['-', c]), rest with
      | some next, '=' :: value =>
        if next.label.isSome then .ok () else checkLetters flags next true value
      | some next, d :: more =>
        if next.label.isSome then .ok () else checkLetters flags next false (d :: more)
      | _, _ => .ok ()

/-- Refuse what is attached to an option that asks for help. -/
def checkAttached (flags : List Flag) (hit : Hit) (a : Attached) : Except Complaint Unit :=
  match hit.spelling.toList with
  | '-' :: '-' :: _ => .error (.valueIgnored hit.flag.name a.text)
  | _ => checkLetters flags hit.flag a.separated a.text.toList

/-! ## Lines -/

namespace Interface

def check {α : Type} (i : Interface) : Except Complaint α → Except Stop α
  | .ok a => .ok a
  | .error c => .error (.complaint i.program c)

def readTokens (i : Interface) (slots : List Slot) (r : Reading) (ts : List Token) :
    Except Stop (List Slot × Reading) :=
  match ts with
  | [] => .ok (slots, r)
  | .flag raw none :: rest => readTokens i slots { r with leftOver := r.leftOver ++ [raw] } rest
  | .flag _ (some hit) :: rest =>
    if hit.flag.label.isNone then do
      match hit.attached with
      | none => throw (.help i.help)
      | some a =>
        i.check (checkAttached i.flags hit a)
        throw (.help i.help)
    else
      match hit.attached with
      | some a => do
        i.check (checkValue hit.flag a.text)
        readTokens i slots { r with values := (hit.flag.name, a.text) :: r.values } rest
      | none =>
        match rest with
        | .word value :: rest => do
          i.check (checkValue hit.flag value)
          readTokens i slots { r with values := (hit.flag.name, value) :: r.values } rest
        | _ => throw (.complaint i.program (.valueExpected hit.flag.name))
  | t :: rest =>
    let before := t :: rest.takeWhile fun t => !t.isFlag
    let after := rest.dropWhile fun t => !t.isFlag
    have : (rest.dropWhile fun t => !t.isFlag).length ≤ rest.length :=
      (List.dropWhile_sublist _).length_le
    if !i.commands.isEmpty && r.command.isNone && before.any Token.isWord then
      .ok (slots, { r with command := some ((t :: rest).map Token.raw) })
    else
      let (filled, slots, left) := fill slots before
      do
        filled.forM fun (slot, value) => i.check (checkArgument slot value)
        readTokens i slots
          { r with
            arguments := r.arguments ++ filled.map Prod.snd
            leftOver := r.leftOver ++ left.map Token.raw } after
termination_by ts.length

def missing (i : Interface) (slots : List Slot) (r : Reading) : List String :=
  slots.map Slot.name ++ if !i.commands.isEmpty && r.command.isNone then [commandSlot] else []

/-- Read the words of a command line. -/
def read (i : Interface) (words : List String) : Except Stop Reading := do
  let ts ← i.check (tokens i.flags words)
  let (slots, r) ← i.readTokens i.slots .empty ts
  match i.missing slots r with
  | [] => return r
  | names => throw (.complaint i.program (.required names))

end Interface

end CommandLine

end LozengeNav
