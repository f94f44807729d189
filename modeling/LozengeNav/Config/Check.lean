import LozengeNav.Config
import LozengeNav.Data.Toml
import LozengeNav.Text.Quoted
import LozengeNav.Text.Blank

/-!
# Checking configurations

Reading a configuration from data.  All that is wrong with the data is reported at once, in the order
of the settings, with the way to each place.
-/

namespace LozengeNav

namespace Config

inductive Step where
  | key (s : String)
  | index (n : Nat)
  deriving DecidableEq, Repr

/-- What is wrong at a place. -/
inductive Cause where
  | noText
  | noList
  | noChoice
  | noBool
  | unreadableBool
  | noNumber
  | unreadableNumber
  | notPositive
  | noTable
  | unknownKey
  /-- An extension that forms no suffix of a file name. -/
  | badExtension (value : String)
  /-- A command without an executable. -/
  | noExecutable
  deriving DecidableEq, Repr

namespace Cause

def name : Cause → String
  | noText => "string_type"
  | noList => "list_type"
  | noChoice => "literal_error"
  | noBool => "bool_type"
  | unreadableBool => "bool_parsing"
  | noNumber => "float_type"
  | unreadableNumber => "float_parsing"
  | notPositive => "greater_than"
  | noTable => "model_type"
  | unknownKey => "extra_forbidden"
  | badExtension _ => "value_error"
  | noExecutable => "value_error"

def message? : Cause → Option String
  | badExtension value => some ("Invalid extension " ++ Text.quoted value)
  | noExecutable => some "language_server.command must name an executable"
  | _ => none

end Cause

/-- Something wrong, and where. -/
structure Issue where
  place : List Step
  cause : Cause
  deriving DecidableEq, Repr

/-- A value read from data, or what is wrong with the data. -/
abbrev Checked (α : Type) :=
  Except (List Issue) α

namespace Checked

def fail {α : Type} (cause : Cause) : Checked α :=
  .error [⟨[], cause⟩]

/-- What is wrong behind one more step. -/
def under {α : Type} (step : Step) : Checked α → Checked α
  | .ok a => .ok a
  | .error issues => .error (issues.map fun i => ⟨step :: i.place, i.cause⟩)

/-- Apply a checked function; what is wrong with it is reported first. -/
def apply {α β : Type} (f : Checked (α → β)) (a : Checked α) : Checked β :=
  match f, a with
  | .ok f, .ok a => .ok (f a)
  | .ok _, .error issues => .error issues
  | .error issues, .ok _ => .error issues
  | .error issues, .error more => .error (issues ++ more)

end Checked

/-! ## Values -/

def text : Datum → Checked String
  | .text s => .ok s
  | _ => .fail .noText

def itemsFrom (n : Nat) : List Datum → Checked (List String)
  | [] => .ok []
  | d :: rest =>
    .apply (.apply (.ok List.cons) (.under (.index n) (text d))) (itemsFrom (n + 1) rest)

def texts : Datum → Checked (List String)
  | .list items => itemsFrom 0 items
  | _ => .fail .noList

def choice {α : Type} (all : List α) (name : α → String) (d : Datum) : Checked α :=
  match d with
  | .text s =>
    match all.find? fun a => name a == s with
    | some a => .ok a
    | none => .fail .noChoice
  | _ => .fail .noChoice

def yesWords : List String :=
  ["1", "on", "t", "true", "y", "yes"]

/-- The words for no. -/
def noWords : List String :=
  ["0", "off", "f", "false", "n", "no"]

/-- A truth value, or what stands for one. -/
def flag : Datum → Checked Bool
  | .bool b => .ok b
  | .int n => if n = 0 then .ok false else if n = 1 then .ok true else .fail .unreadableBool
  | .float x => if x == 0 then .ok false else if x == 1 then .ok true else .fail .noBool
  | .text s =>
    let word := s.map Char.toLower
    if yesWords.contains word then .ok true
    else if noWords.contains word then .ok false
    else .fail .unreadableBool
  | _ => .fail .noBool

/-- A decimal number without blanks: digits on one side of the point at least. -/
def plainNumber? (s : List Char) : Option Float :=
  let (negative, rest) := Toml.sign s
  let lower := rest.map Char.toLower
  let signed (x : Float) : Float := if negative then -x else x
  if lower = ['i', 'n', 'f'] || lower = ['i', 'n', 'f', 'i', 'n', 'i', 't', 'y'] then
    some (signed (1 / 0))
  else if lower = ['n', 'a', 'n'] then some (0 / 0)
  else
    let whole := rest.takeWhile Char.isDigit
    let rest := rest.drop whole.length
    let behind := match rest with
      | '.' :: more => more.takeWhile Char.isDigit
      | _ => []
    let rest := match rest with
      | '.' :: more => more.drop behind.length
      | _ => rest
    if whole.isEmpty && behind.isEmpty then none
    else
      let number (e : Int) : Float :=
        Number.ofDecimal negative (Toml.valueOf 10 (whole ++ behind)) (e - behind.length)
      match rest with
      | [] => some (number 0)
      | c :: rest =>
        let (down, digits) := Toml.sign rest
        if (c = 'e' || c = 'E') && !digits.isEmpty && digits.all Char.isDigit then
          let e : Int := Toml.valueOf 10 digits
          some (number (if down then -e else e))
        else none

def dropUnderscores? (s : List Char) : Option (List Char) :=
  let parts := s.splitOn '_'
  if parts.length = 1 || parts.any List.isEmpty then none else some parts.flatten

def numberIn? (s : String) : Option Float :=
  let bare := Text.dropRightWhile Text.isWhiteSpace (s.toList.dropWhile Text.isWhiteSpace)
  (plainNumber? bare).orElse fun _ =>
    (dropUnderscores? s.toList).bind plainNumber?

/-- A number, or what stands for one. -/
def number : Datum → Checked Float
  | .float x => .ok x
  | .int n =>
    let x := Number.ofDecimal (n < 0) n.natAbs 0
    if x.isInf then .fail .noNumber else .ok x
  | .bool b => .ok (if b then 1 else 0)
  | .text s =>
    match numberIn? s with
    | some x => .ok x
    | none => .fail .unreadableNumber
  | _ => .fail .noNumber

/-! ## Settings with rules of their own -/

/-- An extension: dots in front are dropped, and something without slashes has to be left. -/
def extensionOf (d : Datum) : Checked String := do
  let value ← text d
  let rest := value.toList.dropWhile (· = '.')
  if rest.isEmpty || rest.contains '/' || rest.contains '\\' then .fail (.badExtension value)
  else return String.ofList rest

/-- A command, which has to name an executable. -/
def commandOf (d : Datum) : Checked (List String) := do
  let command ← texts d
  match command with
  | executable :: _ =>
    if Text.allBlank executable.toList then .fail .noExecutable else return command
  | [] => .fail .noExecutable

/-- A number above zero. -/
def timeoutOf (d : Datum) : Checked Float := do
  let x ← number d
  if 0 < x then return x else .fail .notPositive

/-! ## Tables -/

/-- The value of a setting, or its default. -/
def setting {α : Type} (entries : List (String × Datum)) (key : String) (read : Datum → Checked α)
    (default : α) : Checked α :=
  match entries.lookup key with
  | some d => .under (.key key) (read d)
  | none => .ok default

/-- Keys other than some are reported. -/
def onlyKeys (known : List String) (entries : List (String × Datum)) : Checked Unit :=
  match entries.filter fun e => !known.contains e.1 with
  | [] => .ok ()
  | unknown => .error (unknown.map fun e => ⟨[.key e.1], .unknownKey⟩)

def baseOf : Datum → Checked BaseClass
  | .table entries =>
    let make (name pathMarker rootBase : String) (_ : Unit) : BaseClass :=
      ⟨name, pathMarker, rootBase⟩
    .apply (.apply (.apply (.apply (.ok make)
      (setting entries "name" text "Context"))
      (setting entries "path_marker" text "appeldryck"))
      (setting entries "root_base" text "object"))
      (onlyKeys baseKeys entries)
  | _ => .fail .noTable

def serverOf : Datum → Checked ServerSettings
  | .table entries =>
    let start : ServerSettings := {}
    let make (command : List String) (timeout : Float) (_ : Unit) : ServerSettings :=
      ⟨command, timeout⟩
    .apply (.apply (.apply (.ok make)
      (setting entries "command" commandOf start.command))
      (setting entries "request_timeout" timeoutOf start.timeout))
      (onlyKeys serverKeys entries)
  | _ => .fail .noTable

def ofData : Datum → Checked Config
  | .table entries =>
    let make (extension : String) (backend : Backend) (exclude : List String) (nested : Bool)
        (searchPaths : List String) (logLevel : LogLevel) (base : BaseClass)
        (server : ServerSettings) (_ : Unit) : Config :=
      ⟨extension, backend, exclude, nested, searchPaths, logLevel, base, server⟩
    .apply (.apply (.apply (.apply (.apply (.apply (.apply (.apply (.apply (.ok make)
      (setting entries "extension" extensionOf "dryck"))
      (setting entries "backend" (choice Backend.all Backend.name) .static))
      (setting entries "exclude" texts []))
      (setting entries "nested_gitignore" flag false))
      (setting entries "search_paths" texts []))
      (setting entries "log_level" (choice LogLevel.all LogLevel.name) .warning))
      (setting entries "base_class" baseOf {}))
      (setting entries "language_server" serverOf {}))
      (onlyKeys keys entries)
  | _ => .fail .noTable

end Config

end LozengeNav
