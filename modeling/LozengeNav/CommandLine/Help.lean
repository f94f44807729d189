import LozengeNav.CommandLine.Interface

/-!
# Help texts

How an interface is explained.  The usage is broken at a fixed width, options first; below it stand
the arguments and the options with what they are for, in a second column where there is room.
-/

namespace LozengeNav

namespace CommandLine

namespace Help

def width : Nat :=
  78

/-- The widest that the first column may be. -/
def maxColumn : Nat :=
  24

def blanks (n : Nat) : String :=
  String.ofList (List.replicate n ' ')

/-- Break words into lines that are not wider than a help text where that is possible, when `used`
columns of the first line and `margin` columns of the others are taken. -/
def breakWords (margin used : Nat) (line : List String) : List String → List String
  | [] => if line.isEmpty then [] else [" ".intercalate line]
  | word :: rest =>
    if used + 1 + word.length > width && !line.isEmpty then
      " ".intercalate line :: breakWords margin (margin + word.length) [word] rest
    else breakWords margin (used + 1 + word.length) (line ++ [word]) rest

def flagUsage (f : Flag) : String :=
  "[" ++ f.spelled (f.names.headD "") ++ "]"

def commandsUsage (i : Interface) : String :=
  Flag.choice (i.commands.map Prod.fst)

def optionWords (i : Interface) : List String :=
  i.flags.map flagUsage

def argumentWords (i : Interface) : List String :=
  i.slots.map Slot.name ++ if i.commands.isEmpty then [] else [commandsUsage i, "..."]

/-- What a usage begins with. -/
def opening : String :=
  "usage: "

/-- The usage: on one line, or else with the arguments on lines of their own. -/
def usage (i : Interface) : String :=
  let whole := opening ++ " ".intercalate (i.program :: optionWords i ++ argumentWords i)
  if whole.length ≤ width then whole
  else
    let margin := opening.length + i.program.length + 1
    let first := breakWords margin (opening.length - 1) [] (i.program :: optionWords i)
    let later := breakWords margin (margin - 1) [] (argumentWords i)
    match first with
    | [] => opening
    | head :: tail => "\n".intercalate
        ((opening ++ head) :: (tail ++ later).map fun line => blanks margin ++ line)

/-- An entry of a section: how far it is moved in, what it explains and how. -/
structure Entry where
  indent : Nat
  head : String
  help : String
  deriving DecidableEq, Repr

def argumentEntries (i : Interface) : List Entry :=
  i.slots.map (fun s => ⟨2, s.name, s.help⟩) ++
    if i.commands.isEmpty then []
    else ⟨2, commandsUsage i, ""⟩ :: i.commands.map fun c => ⟨4, c.1, c.2⟩

def flagEntries (i : Interface) : List Entry :=
  i.flags.map fun f => ⟨2, ", ".intercalate (f.names.map f.spelled), f.help⟩

def column (entries : List Entry) : Nat :=
  min maxColumn ((entries.map fun e => e.indent + e.head.length + 2).foldl max 0)

/-- Write an entry with its explanation beside it, or below it where there is no room. -/
def writeEntry (column : Nat) (e : Entry) : List String :=
  let start := blanks e.indent ++ e.head
  if e.help.isEmpty then [start]
  else if start.length + 2 ≤ column then [start ++ blanks (column - start.length) ++ e.help]
  else [start, blanks column ++ e.help]

/-- Write a section, if it has entries. -/
def writeSection (column : Nat) (title : String) (entries : List Entry) : List String :=
  if entries.isEmpty then [] else "" :: (title ++ ":") :: entries.flatMap (writeEntry column)

end Help

def Interface.help (i : Interface) : String :=
  let column := Help.column (Help.argumentEntries i ++ Help.flagEntries i)
  let lines := Help.usage i ::
    Help.writeSection column "positional arguments" (Help.argumentEntries i) ++
    Help.writeSection column "options" (Help.flagEntries i)
  String.join (lines.map fun line => line ++ "\n")

end CommandLine

end LozengeNav
