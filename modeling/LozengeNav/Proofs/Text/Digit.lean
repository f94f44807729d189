import LozengeNav.Text.Digit

/-! # Integers that were written

A decimal integer is read back as it was written, unless it has too many digits,
and then it is not read at all.
-/

namespace LozengeNav

namespace Text

end Text

end LozengeNav
