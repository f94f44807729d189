/-!
# Interfaces of commands

What words a command line may consist of: options, which begin with a dash, and arguments, which are
told apart by their order; or else a command of its own with its own words.
-/

namespace LozengeNav

namespace CommandLine

/-- An option.  One without a label asks for help; the others take a value. -/
structure Flag where
  names : List String
  /-- What the value is called. -/
  label : Option String
  /-- The values that are admitted; none means all. -/
  choices : List String
  help : String
  deriving DecidableEq, Repr, Inhabited

structure Slot where
  name : String
  help : String
  /-- Whether the argument has to be an integer. -/
  isNumber : Bool
  deriving DecidableEq, Repr, Inhabited

/-- What a command understands: options and arguments, or options and further commands. -/
structure Interface where
  program : String
  flags : List Flag
  slots : List Slot
  /-- The further commands and what they are for. -/
  commands : List (String × String)
  deriving DecidableEq, Repr, Inhabited

namespace Flag

def name (f : Flag) : String :=
  "/".intercalate f.names

def forHelp : Flag :=
  ⟨["-h", "--help"], none, [], "show this help message and exit"⟩

def taking (name label help : String) : Flag :=
  ⟨[name], some label, [], help⟩

def choice (values : List String) : String :=
  "\x7b" ++ ",".intercalate values ++ "\x7d"

def choosing (name : String) (choices : List String) (help : String) : Flag :=
  ⟨[name], some (choice choices), choices, help⟩

def spelled (f : Flag) (name : String) : String :=
  match f.label with
  | none => name
  | some label => name ++ " " ++ label

end Flag

/-- What a command that has to be chosen is called. -/
def commandSlot : String :=
  "command"

end CommandLine

end LozengeNav
