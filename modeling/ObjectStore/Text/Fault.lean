import ObjectStore.Text.Integer

/-!
# Texts that cannot be made

A value is shown unless an integer somewhere in it has too many digits.
-/

namespace ObjectStore

set_option autoImplicit false

inductive TextFault where
  | integerTooLong
  deriving DecidableEq, Repr

namespace TextFault

def className : TextFault → String
  | .integerTooLong => "ValueError"

def message : TextFault → String
  | .integerTooLong =>
      s!"Exceeds the limit ({Text.digitLimit} digits) for integer string conversion; " ++
        "use sys.set_int_max_str_digits() to increase the limit"

end TextFault

def integerText (n : Int) : Except TextFault String :=
  match Text.integerText? n with
  | some text => .ok text
  | none => .error .integerTooLong

end ObjectStore
