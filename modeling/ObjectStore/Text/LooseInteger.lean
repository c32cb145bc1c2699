import ObjectStore.Text.Integer

/-!
# Signed integers with leading zeros and a fraction

A signed literal is tidied up before it is read. The sign is set aside; then leading zeros, a
fraction that is zero and the underscores go, in this order. What is left has to be an integer in
its shortest decimal form. Leading zeros therefore never count as digits, and a minus sign behind
them is the sign of what follows.
-/

namespace ObjectStore.Text

set_option autoImplicit false

def trimBlank (content : List Char) : List Char :=
  ((content.dropWhile isBlank).reverse.dropWhile isBlank).reverse

def isZeroOrUnderscore (c : Char) : Bool :=
  c == '0' || c == '_'

/-- Drops leading zeros with all underscores among them. When neither a digit nor a minus sign
follows, the last of the dropped characters stays. -/
def dropLeadingZeros : List Char → List Char
  | '0' :: rest =>
      let last := (rest.takeWhile isZeroOrUnderscore).getLastD '0'
      match rest.dropWhile isZeroOrUnderscore with
      | c :: others => if c.isDigit || c == '-' then c :: others else last :: c :: others
      | [] => [last]
  | literal => literal

def dropZeroFraction (literal : List Char) : List Char :=
  match literal.dropWhile (· != '.') with
  | '.' :: fraction =>
      if !fraction.isEmpty && fraction.all (· == '0') then literal.takeWhile (· != '.')
      else literal
  | _ => literal

def hasDoubledUnderscore : List Char → Bool
  | '_' :: '_' :: _ => true
  | _ :: rest => hasDoubledUnderscore rest
  | [] => false

/-- Drops the underscores, which may only be single ones inside of a literal. -/
def dropUnderscores (literal : List Char) : List Char :=
  if literal.head? == some '_' || literal.getLast? == some '_' || hasDoubledUnderscore literal then
    literal
  else literal.filter (· != '_')

def shortestNatural? (literal : List Char) : Option Nat :=
  if !literal.isEmpty && literal.all Char.isDigit && (literal == ['0'] || literal.head? != some '0')
      && literal.length ≤ digitLimit then
    some (digitsValue 0 literal)
  else none

/-- Reads the shortest form of an integer; a minus sign may also stand before a single zero. -/
def shortestInteger? : List Char → Option Int
  | '-' :: literal => (shortestNatural? literal).map fun magnitude => -magnitude
  | literal => (shortestNatural? literal).map Int.ofNat

def tidied (literal : List Char) : List Char :=
  dropUnderscores (dropZeroFraction (dropLeadingZeros literal))

/-- Reads an integer that has a sign in front. No second sign may follow at once. -/
def signedInteger? (content : List Char) : Option Int :=
  match trimBlank content with
  | '+' :: '-' :: _ => none
  | '+' :: literal => shortestInteger? (tidied literal)
  | '-' :: literal => shortestInteger? ('-' :: tidied literal)
  | _ => none

end ObjectStore.Text
