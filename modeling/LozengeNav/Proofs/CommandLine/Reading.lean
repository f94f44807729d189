import LozengeNav.CommandLine.Command
import LozengeNav.Proofs.Fault
import LozengeNav.Proofs.Text.Digit
import Mathlib.Data.List.TakeWhile

/-! # Reading a place in a file

Words that name a file, a line and a column are arguments in that order, whatever
options follow them. If the file looks like an option, an argument is missing in the
end, so that nothing else is read than what was written.
-/

namespace LozengeNav

namespace CommandLine

/-! ## Words -/

section Digits

variable {flags : List Flag} {c : Char} {rest : List Char}

end Digits

namespace Interface

variable {i : Interface} {slots : List Slot} {r : Reading} {after : List Token}

/-- Tokens give options values, whatever was read before them, or stop the reading. -/
def Closes (i : Interface) (ts : List Token) (values : List (String × String)) : Prop :=
  (∃ stop, ∀ slots r, i.readTokens slots r ts = .error stop) ∨
    ∀ slots r, i.readTokens slots r ts = .ok (slots, { r with values := values ++ r.values })

variable {options : List String} {values : List (String × String)}

end Interface

end CommandLine

end LozengeNav
