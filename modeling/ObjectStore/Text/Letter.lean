/-!
# Letter case

Names and units are compared in lower case. Both are spelled in ASCII, and the only other letter
whose lower-case form is a single ASCII letter is the sign for kelvin.
-/

namespace ObjectStore.Text

set_option autoImplicit false

def kelvinSign : Char := '\u212a'

def lowered (c : Char) : Char :=
  if c = kelvinSign then 'k' else c.toLower

def lowerCase (text : String) : String :=
  String.ofList (text.toList.map lowered)

end ObjectStore.Text
