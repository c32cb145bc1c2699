import ObjectStore.Text.Digit

/-!
# Binary floating-point numbers of 64 bits

A finite number is a sign and a whole number of the smallest positive step, which is two to the
power of minus 1074. Everything is exact integer arithmetic: a quotient is rounded to the nearest
number with 53 significant bits, a tie goes to the even neighbour, and a magnitude from two to the
power of 1024 on is infinite.
-/

namespace ObjectStore

set_option autoImplicit false

inductive Binary64 where
  | notANumber
  | infinite (negative : Bool)
  | finite (negative : Bool) (steps : Nat)
  deriving DecidableEq, Repr

namespace Binary64

def significandBits : Nat := 53

def stepsPerUnit : Nat := Nat.pow 2 1074

/-- From this many steps on a magnitude is infinite. -/
def overflowSteps : Nat := Nat.pow 2 (1024 + 1074)

/-- The whole number nearest to a quotient, the even one of two. -/
def nearest (numerator denominator : Nat) : Nat :=
  let quotient := numerator / denominator
  let doubled := 2 * (numerator % denominator)
  if doubled < denominator then quotient
  else if denominator < doubled then quotient + 1
  else quotient + quotient % 2

def spacing (steps : Nat) : Nat :=
  Nat.pow 2 (steps.log2 + 1 - significandBits)

def roundSteps (numerator denominator : Nat) : Nat :=
  let scaled := numerator * stepsPerUnit
  let gap := spacing (scaled / denominator)
  nearest scaled (denominator * gap) * gap

def ofQuotient (negative : Bool) (numerator denominator : Nat) : Binary64 :=
  let steps := roundSteps numerator denominator
  if steps < overflowSteps then .finite negative steps else .infinite negative

/-- The product with a non-negative quotient that is itself representable. -/
def scale (number : Binary64) (numerator denominator : Nat) : Binary64 :=
  match number with
  | .notANumber => .notANumber
  | .infinite negative => if numerator = 0 then .notANumber else .infinite negative
  | .finite negative steps =>
      ofQuotient negative (steps * numerator) (stepsPerUnit * denominator)

def truncate? : Binary64 → Option Int
  | .finite negative steps =>
      let magnitude : Int := (steps / stepsPerUnit : Nat)
      some (if negative then -magnitude else magnitude)
  | _ => none

def isIntegral : Binary64 → Bool
  | .finite _ steps => steps % stepsPerUnit == 0
  | _ => false

def ofDecimal (negative : Bool) (whole fraction : List Char) (exponent : Int) : Binary64 :=
  let significand := Text.digitsValue 0 (whole ++ fraction)
  let power := exponent - fraction.length
  if 0 ≤ power then ofQuotient negative (significand * Nat.pow 10 power.toNat) 1
  else ofQuotient negative significand (Nat.pow 10 (-power).toNat)

def exponentPart : List Char → Int
  | 'e' :: '-' :: digits => -(Text.digitsValue 0 digits : Int)
  | 'e' :: '+' :: digits => Text.digitsValue 0 digits
  | 'e' :: digits => Text.digitsValue 0 digits
  | _ => 0

/-- Reads the shortest decimal form of a number, the words inf and nan included. -/
def ofLiteral (literal : String) : Binary64 :=
  let (negative, body) : Bool × List Char := match literal.toList with
    | '-' :: rest => (true, rest)
    | unsigned => (false, unsigned)
  if body = ['i', 'n', 'f'] then .infinite negative
  else if body = ['n', 'a', 'n'] then .notANumber
  else
    let whole := body.takeWhile Text.isDigit
    match body.dropWhile Text.isDigit with
    | '.' :: rest =>
        ofDecimal negative whole (rest.takeWhile Text.isDigit)
          (exponentPart (rest.dropWhile Text.isDigit))
    | rest => ofDecimal negative whole [] (exponentPart rest)

end Binary64

end ObjectStore
