/-!
# Ranges of character codes

A class of characters is written down as a list of closed ranges of code points. Membership asks
whether some range holds the code.
-/

namespace ObjectStore.Text

set_option autoImplicit false

abbrev CodeRange := Nat × Nat

def inRanges (ranges : List CodeRange) (code : Nat) : Bool :=
  ranges.any fun range => range.1 ≤ code && code ≤ range.2

end ObjectStore.Text
