import ObjectStore.ErrorKind
import ObjectStore.Value

/-!
# Classified errors

A classified error says what went wrong in one of nine variants, keeps the message, the operation,
the label of the path and the status of the response, and points at the failure it was made from.
Service errors also carry the code and the remaining entries of the error body, redirects the
endpoint to use. Classified errors never change. Two of them are equal when they are of one
variant and all their fields agree, the cause by identity.
-/

namespace ObjectStore

set_option autoImplicit false

/-- A failure is known by its place in the history of failures. -/
abbrev FailureId := Nat

/-- The additional entries of an error body, in its order and with distinct keys. -/
abbrev Details := List (String × String)

namespace Details

/-- The same keys with the same texts; the order does not matter. -/
def agree (left right : Details) : Bool :=
  (left ++ right).all fun (key, _) => List.lookup key left == List.lookup key right

theorem agree_self (details : Details) : details.agree details = true := by
  simp [agree]

def toRecord (details : Details) : Record :=
  details.map fun (key, text) => (key, .text text)

end Details

inductive Variant where
  | clientSide
  | interrupted
  | service (errorCode : Option String) (details : Details)
  | genericService
  | accessDenied
  | notFound
  | range
  | redirect (endpoint : Option String)
  | generic
  deriving DecidableEq, Repr, Inhabited

namespace Variant

def kind : Variant → ErrorKind
  | clientSide => .client
  | interrupted => .interrupted
  | service _ _ => .service
  | genericService => .genericService
  | accessDenied => .accessDenied
  | notFound => .notFound
  | range => .range
  | redirect _ => .redirect
  | generic => .generic

def name (variant : Variant) : String :=
  variant.kind.variantName

def agree : Variant → Variant → Bool
  | service code details, service otherCode otherDetails =>
      code == otherCode && details.agree otherDetails
  | left, right => left == right

end Variant

structure ClassifiedError where
  variant : Variant
  message : String
  operation : String
  cause : FailureId
  path : Option String
  statusCode : Option Int
  deriving DecidableEq, Repr, Inhabited

/-- A classified error that was handed out. The number tells it apart from an equal copy. -/
structure Classification where
  number : Nat
  error : ClassifiedError
  deriving DecidableEq, Repr, Inhabited

namespace ClassifiedError

def kind (error : ClassifiedError) : ErrorKind :=
  error.variant.kind

def agree (left right : ClassifiedError) : Bool :=
  left.variant.agree right.variant && left.message == right.message &&
    left.operation == right.operation && left.cause == right.cause &&
    left.path == right.path && left.statusCode == right.statusCode

def optionalText : Option String → Value
  | some content => .text content
  | none => .null

def optionalInteger : Option Int → Value
  | some number => .integer number
  | none => .null

def leadingFields (error : ClassifiedError) : Record :=
  [("message", .text error.message), ("operation", .text error.operation)]

def trailingFields (error : ClassifiedError) : Record :=
  [("path", optionalText error.path), ("status_code", optionalInteger error.statusCode)] ++
    match error.variant with
    | .service code details =>
        [("error_code", optionalText code), ("details", .record details.toRecord)]
    | .redirect endpoint => [("endpoint", optionalText endpoint)]
    | _ => []

/-- The plain form for structured logs: every field by name, the cause as its quoted text, and the
word for the kind. -/
def structuredLog (error : ClassifiedError) (causeText : String) : Record :=
  error.leadingFields ++ [("cause", .text causeText)] ++ error.trailingFields ++
    [("kind", .text error.kind.value)]

def namedFields : Record → Except TextFault (List String)
  | [] => .ok []
  | (name, value) :: rest => do
      let shown ← value.quoted
      let others ← namedFields rest
      return (name ++ "=" ++ shown) :: others

def quoted (error : ClassifiedError) (causeText : String) : Except TextFault String := do
  let leading ← namedFields error.leadingFields
  let trailing ← namedFields error.trailingFields
  let fields := leading ++ ["cause=" ++ causeText] ++ trailing
  return error.variant.name ++ "(" ++ ", ".intercalate fields ++ ")"

inductive Misuse where
  | missingArgument (name : String)
  | unexpectedArgument (name : String)
  | immutable (variant : Variant)
  | unhashable
  deriving DecidableEq, Repr

def Misuse.className : Misuse → String
  | .immutable _ => "AttributeError"
  | _ => "TypeError"

def Misuse.message : Misuse → String
  | .missingArgument name => s!"Missing required argument '{name}'"
  | .unexpectedArgument name => s!"Unexpected keyword argument '{name}'"
  | .immutable variant => s!"immutable type: '{variant.name}'"
  | .unhashable => "unhashable type: 'dict'"

def assign (error : ClassifiedError) : Except Misuse ClassifiedError :=
  .error (.immutable error.variant)

/-- Everything but a service error, whose details are a dictionary, can be a key. -/
def checkHashable (error : ClassifiedError) : Except Misuse Unit :=
  match error.variant with
  | .service _ _ => .error .unhashable
  | _ => .ok ()

inductive Argument where
  | message (content : String)
  | operation (content : String)
  | cause (failure : FailureId)
  | path (label : Option String)
  | statusCode (status : Option Int)
  | errorCode (code : Option String)
  | details (entries : Details)
  | endpoint (address : Option String)
  | unknown (name : String)
  deriving DecidableEq, Repr

namespace Argument

def message? : Argument → Option String
  | message content => some content
  | _ => none

def operation? : Argument → Option String
  | operation content => some content
  | _ => none

def cause? : Argument → Option FailureId
  | cause failure => some failure
  | _ => none

def path? : Argument → Option (Option String)
  | path label => some label
  | _ => none

def statusCode? : Argument → Option (Option Int)
  | statusCode status => some status
  | _ => none

def errorCode? : Argument → Option (Option String)
  | errorCode code => some code
  | _ => none

def details? : Argument → Option Details
  | details entries => some entries
  | _ => none

def endpoint? : Argument → Option (Option String)
  | endpoint address => some address
  | _ => none

/-- The name of an argument that the kind has no field for. -/
def foreign? (kind : ErrorKind) : Argument → Option String
  | errorCode _ => if kind = .service then none else some "error_code"
  | details _ => if kind = .service then none else some "details"
  | endpoint _ => if kind = .redirect then none else some "endpoint"
  | unknown name => some name
  | _ => none

end Argument

def required {α : Type} (name : String) (argument? : Option α) : Except Misuse α :=
  match argument? with
  | some given => .ok given
  | none => .error (.missingArgument name)

/-- Unset optional fields are empty. -/
def variantOf (kind : ErrorKind) (arguments : List Argument) : Variant :=
  match kind with
  | .client => .clientSide
  | .interrupted => .interrupted
  | .service =>
      .service ((arguments.findSome? Argument.errorCode?).getD none)
        ((arguments.findSome? Argument.details?).getD [])
  | .genericService => .genericService
  | .accessDenied => .accessDenied
  | .notFound => .notFound
  | .range => .range
  | .redirect => .redirect ((arguments.findSome? Argument.endpoint?).getD none)
  | .generic => .generic

/-- Makes a classified error from named arguments. An argument without a field is refused first,
then the first missing one of message, operation and cause. -/
def ofArguments (kind : ErrorKind) (arguments : List Argument) :
    Except Misuse ClassifiedError :=
  match arguments.findSome? (Argument.foreign? kind) with
  | some name => .error (.unexpectedArgument name)
  | none => do
      let message ← required "message" (arguments.findSome? Argument.message?)
      let operation ← required "operation" (arguments.findSome? Argument.operation?)
      let cause ← required "cause" (arguments.findSome? Argument.cause?)
      return {
        variant := variantOf kind arguments
        message, operation, cause
        path := (arguments.findSome? Argument.path?).getD none
        statusCode := (arguments.findSome? Argument.statusCode?).getD none }

end ClassifiedError

end ObjectStore
