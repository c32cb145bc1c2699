import ObjectStore.Log
import ObjectStore.Settings.Field
import ObjectStore.Settings.Number

/-!
# Sizes with warnings

A size that does not fit is replaced by the nearest one that does, with a warning. A computation
of sizes gives its warnings in order and either a result or the reason why it stopped; warnings
given before it stopped remain. A warning shows its numbers, so one with too many digits cannot be
given and stops the computation.
-/

namespace ObjectStore

set_option autoImplicit false

inductive SizeWarning where
  | belowMinimum (name : String) (minimum configured : Int)
  | capped (name : String)
  deriving DecidableEq, Repr

inductive UploadFault where
  | text (fault : TextFault)
  | number (fault : NumberFault)
  | field (unknown : UnknownField)
  deriving DecidableEq, Repr

def UploadFault.className : UploadFault → String
  | .text fault => fault.className
  | .number fault => fault.className
  | .field _ => "AttributeError"

def UploadFault.message : UploadFault → String
  | .text fault => fault.message
  | .number fault => fault.message
  | .field unknown => unknown.readMessage

namespace SizeWarning

def text : SizeWarning → Except TextFault String
  | .belowMinimum name minimum configured => do
      let least ← integerText minimum
      let given ← integerText configured
      return s!"{name} must be at least {least} bytes; configured value is {given}"
  | .capped name =>
      .ok (s!"objstore: {name} capped to ~2.14GB " ++
        "(maximum allowed size with current output mechanism)")

def record? (warning : SizeWarning) : Option LogRecord :=
  match warning.text with
  | .ok text => some { level := .warning, source := .upload, text }
  | .error _ => none

end SizeWarning

/-- The warnings given so far, and how the computation ended. -/
structure Warned (α : Type) where
  warnings : List SizeWarning
  outcome : Except UploadFault α
  deriving Repr

namespace Warned

variable {α β : Type}

def value (result : α) : Warned α :=
  ⟨[], .ok result⟩

def stop (fault : UploadFault) : Warned α :=
  ⟨[], .error fault⟩

/-- Goes on with a result, if there is one; the warnings add up. -/
def andThen (first : Warned α) (next : α → Warned β) : Warned β :=
  match first.outcome with
  | .ok result =>
      let second := next result
      ⟨first.warnings ++ second.warnings, second.outcome⟩
  | .error fault => ⟨first.warnings, .error fault⟩

instance : Monad Warned where
  pure := value
  bind := andThen

def ofExcept : Except UploadFault α → Warned α
  | .ok result => value result
  | .error fault => stop fault

def warn (warning : SizeWarning) : Warned Unit :=
  match warning.text with
  | .ok _ => ⟨[warning], .ok ()⟩
  | .error fault => stop (.text fault)

@[simp] theorem pure_eq_value (result : α) : (pure result : Warned α) = value result := rfl

@[simp] theorem bind_eq_and_then (first : Warned α) (next : α → Warned β) :
    (first >>= next) = first.andThen next := rfl

@[simp] theorem value_and_then (result : α) (next : α → Warned β) :
    (value result).andThen next = next result := by
  simp [value, andThen]

end Warned

end ObjectStore
