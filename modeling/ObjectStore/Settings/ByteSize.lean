import ObjectStore.Binary64
import ObjectStore.Settings.Field
import ObjectStore.Text.Letter
import ObjectStore.Text.LooseInteger
import ObjectStore.Text.Word

/-!
# Sizes with units

A size is written as a number, with or without a unit after it. A text that is an integer literal
is that number. Otherwise its leading decimal numeral is multiplied by its unit in 64-bit
floating-point arithmetic and loses what follows the point; anything after the unit is ignored. A
size is never negative.
-/

namespace ObjectStore

set_option autoImplicit false

inductive SizeFault where
  | unparsable
  | unknownUnit (unit : String)
  deriving DecidableEq, Repr

def SizeFault.message : SizeFault → String
  | .unparsable => "could not parse value and unit from byte string [byte_size]"
  | .unknownUnit unit => "could not interpret byte unit: " ++ unit ++ " [byte_size_unit]"

namespace ByteSize

def scaleLetters : List Char :=
  ['k', 'm', 'g', 't', 'p', 'e']

def decimalStep : Nat := Nat.pow 10 3
def binaryStep : Nat := Nat.pow 2 10

def bitsPerByte : Nat := 8

def power? (step : Nat) (letter : Char) : Option Nat :=
  (scaleLetters.findIdx? (· == letter)).map fun index => step.pow (index + 1)

/-- The multiplier of a lower-case unit as a quotient: bytes or bits, with a scale letter in front,
an i after the letter for powers of two, or the letter alone. -/
def multiplier? : List Char → Option (Nat × Nat)
  | ['b'] => some (1, 1)
  | ['b', 'i', 't'] => some (1, bitsPerByte)
  | [letter] => (power? decimalStep letter).map fun power => (power, 1)
  | [letter, 'b'] => (power? decimalStep letter).map fun power => (power, 1)
  | [letter, 'i', 'b'] => (power? binaryStep letter).map fun power => (power, 1)
  | [letter, 'b', 'i', 't'] => (power? decimalStep letter).map fun power => (power, bitsPerByte)
  | [letter, 'i', 'b', 'i', 't'] =>
      (power? binaryStep letter).map fun power => (power, bitsPerByte)
  | _ => none

structure Numeral where
  whole : List Char
  fraction : List Char
  suffix : List Char
  deriving DecidableEq, Repr

/-- The point belongs to the numeral only when a digit follows it. -/
def numeral? (content : List Char) : Option Numeral :=
  let whole := content.takeWhile Text.isDigit
  let rest := content.dropWhile Text.isDigit
  let plain : Option Numeral := if whole.isEmpty then none else some ⟨whole, [], rest⟩
  match rest with
  | '.' :: afterPoint =>
      let fraction := afterPoint.takeWhile Text.isDigit
      if fraction.isEmpty then plain
      else some ⟨whole, fraction, afterPoint.dropWhile Text.isDigit⟩
  | _ => plain

def scaled (numeral : Numeral) (numerator denominator : Nat) : Except SizeFault Int :=
  let number := Binary64.ofDecimal false numeral.whole numeral.fraction 0
  match (number.scale numerator denominator).truncate? with
  | some size => .ok size
  | none => .error .unparsable

def unitOf (suffix : List Char) : List Char :=
  let unit := (suffix.dropWhile Text.isSpace).takeWhile Text.isWord
  if unit.isEmpty then ['b'] else unit

def ofInteger (number : Int) : Except SizeFault Int :=
  if 0 ≤ number then .ok number else .error .unparsable

def ofText (content : List Char) : Except SizeFault Int :=
  match numeral? (content.dropWhile Text.isBlank) with
  | some numeral =>
      match Text.readInteger content with
      | .ok number => .ok number
      | .error _ =>
          let unit := unitOf numeral.suffix
          match multiplier? (unit.map Text.lowered) with
          | some (numerator, denominator) => scaled numeral numerator denominator
          | none => .error (.unknownUnit (String.ofList unit))
  | none =>
      match Text.signedInteger? content with
      | some number => ofInteger number
      | none => .error .unparsable

def fractionLimit : Nat := Nat.pow 2 63

/-- A fractional value counts when nothing follows its point and it fits into 64 bits. -/
def ofFloat (literal : String) : Except SizeFault Int :=
  match Binary64.ofLiteral literal with
  | .finite negative steps =>
      let size := steps / Binary64.stepsPerUnit
      if (Binary64.finite negative steps).isIntegral && size < fractionLimit &&
          (!negative || size == 0) then .ok size
      else .error .unparsable
  | _ => .error .unparsable

def ofValue : Value → Except SizeFault Int
  | .integer number => ofInteger number
  | .boolean truth => .ok (if truth then 1 else 0)
  | .float literal => ofFloat literal
  | .text content => ofText content.toList
  | .bytes content =>
      match String.fromUTF8? ⟨content.toArray⟩ with
      | some decoded => ofText decoded.toList
      | none => .error .unparsable
  | _ => .error .unparsable

end ByteSize

def SettingField.validate (field : SettingField) (value : Value) : Except SizeFault Value :=
  match value with
  | .null => if field.mayBeUnset then .ok .null else .error .unparsable
  | value => (ByteSize.ofValue value).map Value.integer

end ObjectStore
