import LozengeNav.Text.Quoted

/-!
# Faults

The causes for which a query ends without an answer, each with the wording of its message.
-/

namespace LozengeNav

/-- The number of a position that is out of range. -/
inductive Axis where
  | line
  | character
  deriving DecidableEq, Repr

/-- Why a query ended without an answer. -/
inductive Fault where
  | badPosition (axis : Axis) (value : Int)
  | noPosition (axis : Axis)
  | notGiven
  | unknownForm (form : String)
  | notFileUri (uri : String)
  /-- A path that begins with two slashes and has no third. -/
  | noShareEnd
  | unpairedBracket
  | badAddress (message : String)
  /-- A URI whose authority changes under compatibility normalization. -/
  | unsafeAuthority (message : String)
  | emptyPattern
  | absolutePattern
  | recursiveInside
  | noSegment
  | loneDirectoryMark
  /-- An ignore rule that is used up before it is read to its end. -/
  | brokenRule
  | brokenClass
  /-- A path that is tested against rules of a directory it is not in. -/
  | outsideDirectory (path directory : String)
  | undecodable
  | longInteger (digits : Nat)
  | nulInPath
  | pathTooLong
  | linkLoop
  | tooManyLinks
  | noFinalPart (path : String)
  | noHome
  | missingFile
  | unreadable
  | isDirectory
  | notDirectory
  | cannotStart (executable reason : String)
  | notInitialized (executable : String)
  /-- A question before the editor has introduced itself. -/
  | notIntroduced
  deriving DecidableEq, Repr

namespace Axis

def name : Axis → String
  | line => "line"
  | character => "character"

end Axis

namespace Fault

def outOfRange (axis : Axis) (value : String) : String :=
  "Position." ++ axis.name ++ " should be in range [0:2147483647], but was " ++ value ++ "."

/-- The wording of a fault. -/
def message : Fault → String
  | badPosition axis value => outOfRange axis (toString value)
  | noPosition axis => outOfRange axis "[]"
  | notGiven => "a value is missing"
  | unknownForm form => "Unknown token form: " ++ Text.quoted form
  | notFileUri uri => "Not a file URI: " ++ uri
  | noShareEnd => "substring not found"
  | unpairedBracket => "Invalid IPv6 URL"
  | badAddress text => text
  | unsafeAuthority text => text
  | emptyPattern => "Unacceptable pattern: ''"
  | absolutePattern => "Non-relative patterns are unsupported"
  | recursiveInside => "Invalid pattern: '**' can only be an entire path component"
  | noSegment => "tuple index out of range"
  | loneDirectoryMark => "'_TerminatingSelector' object has no attribute 'select_from'"
  | brokenRule => "string index out of range"
  | brokenClass => "unterminated character set"
  | outsideDirectory path directory =>
    Text.quoted path ++ " is not in the subpath of " ++ Text.quoted directory ++
      " OR one path is relative and the other is absolute."
  | undecodable => "invalid UTF-8"
  | longInteger digits =>
    "Exceeds the limit (4300 digits) for integer string conversion: value has " ++
      toString digits ++ " digits; use sys.set_int_max_str_digits() to increase the limit"
  | nulInPath => "embedded null byte"
  | pathTooLong => "File name too long"
  | linkLoop => "Symlink loop"
  | tooManyLinks => "Too many levels of symbolic links"
  | noFinalPart path => "PosixPath(" ++ Text.quoted path ++ ") has an empty name"
  | noHome => "Could not determine home directory."
  | missingFile => "No such file or directory"
  | unreadable => "cannot read the document"
  | isDirectory => "Is a directory"
  | notDirectory => "Not a directory"
  | cannotStart executable reason =>
    "Cannot start language server " ++ Text.quoted executable ++ ": " ++ reason
  | notInitialized executable =>
    "Language server " ++ Text.quoted executable ++ " did not initialize"
  | notIntroduced => "the editor has not introduced itself"

/-- Whether a fault says that a file could not be read. -/
def isUnreadable : Fault → Bool
  | undecodable => true
  | pathTooLong => true
  | tooManyLinks => true
  | missingFile => true
  | unreadable => true
  | isDirectory => true
  | notDirectory => true
  | _ => false

/-- Whether a fault says that there is no session with a language server. -/
def isNoSession : Fault → Bool
  | cannotStart .. => true
  | notInitialized _ => true
  | _ => false

end Fault

end LozengeNav
