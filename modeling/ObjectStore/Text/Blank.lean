/-!
# Blank characters

Two classes of white space are in use. A number may stand between blanks; settings texts are also
split at the four information separators of ASCII, which no number may touch.
-/

namespace ObjectStore.Text

set_option autoImplicit false

def isBlank (c : Char) : Bool :=
  let code := c.toNat
  (9 ≤ code && code ≤ 13) || code == 0x20 || code == 0x85 || code == 0xa0 || code == 0x1680 ||
    (0x2000 ≤ code && code ≤ 0x200a) || code == 0x2028 || code == 0x2029 || code == 0x202f ||
    code == 0x205f || code == 0x3000

def isSpace (c : Char) : Bool :=
  isBlank c || (0x1c ≤ c.toNat && c.toNat ≤ 0x1f)

end ObjectStore.Text
