import ObjectStore.Text.Digit
import ObjectStore.Text.Blank

/-!
# Integers as text

Both directions between integers and decimal text are bounded: no more than `digitLimit` digits
are ever written or read. A literal may have blanks around it, one sign, and single underscores
between its digits. Leading zeros count as digits.
-/

namespace ObjectStore.Text

set_option autoImplicit false

def digitLimit : Nat := 4300

def integerText? (n : Int) : Option String :=
  if n.natAbs < Nat.pow 10 digitLimit then some (toString n) else none

def decimalValue? (text : String) : Option Nat :=
  if isDecimal text && text.toList.length ≤ digitLimit then some (digitsValue 0 text.toList)
  else none

inductive LiteralFault where
  | malformed
  | tooManyDigits (count : Nat)
  deriving DecidableEq, Repr

/-- Splits off the leading digits, with the underscores between them left out. The flag tells that
a digit has to follow, so an underscore at either end, a doubled one and a missing digit are all
refused. -/
def digitRun : Bool → List Char → Option (List Char × List Char)
  | digitDue, [] => if digitDue then none else some ([], [])
  | digitDue, c :: rest =>
      if c = '_' then
        if digitDue then none else digitRun true rest
      else if isDigit c then
        (digitRun false rest).map fun (digits, suffix) => (c :: digits, suffix)
      else if digitDue then none
      else some ([], c :: rest)

def signed : List Char → Bool × List Char
  | '-' :: rest => (true, rest)
  | '+' :: rest => (false, rest)
  | unsigned => (false, unsigned)

/-- The length of the digit run is judged before anything that follows it. -/
def readInteger (literal : List Char) : Except LiteralFault Int :=
  let (negative, body) := signed (literal.dropWhile isBlank)
  match digitRun true body with
  | none => .error .malformed
  | some (digits, suffix) =>
      if digitLimit < digits.length then .error (.tooManyDigits digits.length)
      else if suffix.all isBlank then
        let magnitude : Int := digitsValue 0 digits
        .ok (if negative then -magnitude else magnitude)
      else .error .malformed

theorem decimal_value_of_short (text : String) (decimal : isDecimal text = true)
    (short : text.toList.length ≤ digitLimit) :
    decimalValue? text = some (digitsValue 0 text.toList) := by
  simp [decimalValue?, decimal, short]

end ObjectStore.Text
