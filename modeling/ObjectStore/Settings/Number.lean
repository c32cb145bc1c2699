import ObjectStore.Binary64
import ObjectStore.Value

/-!
# Values read as whole numbers

A size is asked of a field by reading its value as a whole number. Truth values count as one and
zero, fractions lose what follows the point, and texts and bytes are read as integer literals.
Nothing else is a number.
-/

namespace ObjectStore

set_option autoImplicit false

/-- Why a value is no whole number. The first two concern texts, the next two fractions. -/
inductive NumberFault where
  | malformed (quotedStart : String)
  | tooManyDigits (count : Nat)
  | infinite
  | notANumber
  | wrongType (typeName : String)
  deriving DecidableEq, Repr

namespace NumberFault

def className : NumberFault → String
  | .infinite => "OverflowError"
  | .wrongType _ => "TypeError"
  | _ => "ValueError"

def message : NumberFault → String
  | .malformed quotedStart => "invalid literal for int() with base 10: " ++ quotedStart
  | .tooManyDigits count =>
      s!"Exceeds the limit ({Text.digitLimit} digits) for integer string conversion: " ++
        s!"value has {count} digits; use sys.set_int_max_str_digits() to increase the limit"
  | .infinite => "cannot convert float infinity to integer"
  | .notANumber => "cannot convert float NaN to integer"
  | .wrongType typeName =>
      "int() argument must be a string, a bytes-like object or a real number, not " ++
        s!"'{typeName}'"

end NumberFault

/-- How much of a malformed literal is repeated. Of bytes no more than this many are quoted. -/
def repeatedLength : Nat := 200

def readLiteral (literal : List Char) (quotedForm : String) : Except NumberFault Int :=
  match Text.readInteger literal with
  | .ok number => .ok number
  | .error .malformed =>
      .error (.malformed (String.ofList (quotedForm.toList.take repeatedLength)))
  | .error (.tooManyDigits count) => .error (.tooManyDigits count)

/-- Bytes of ASCII stand for their characters. No other byte is part of a number. -/
def byteLetter (byte : UInt8) : Char :=
  if byte < 0x80 then Char.ofNat byte.toNat else '\ufffd'

def Value.wholeNumber : Value → Except NumberFault Int
  | .integer number => .ok number
  | .boolean truth => .ok (if truth then 1 else 0)
  | .float literal =>
      match Binary64.ofLiteral literal with
      | .notANumber => .error .notANumber
      | .infinite _ => .error .infinite
      | .finite negative steps => .ok ((Binary64.finite negative steps).truncate?.getD 0)
  | .text content => readLiteral content.toList (Text.quote content)
  | .bytes content =>
      readLiteral (content.map byteLetter) (Text.quoteBytes (content.take repeatedLength))
  | value => .error (.wrongType value.typeName)

end ObjectStore
