import ObjectStore.Value

/-!
# Kinds of classified errors

The nine ways in which an object-store operation can fail. Every kind has one variant of
classified error, a word that callers branch on, and a name.
-/

namespace ObjectStore

set_option autoImplicit false

inductive ErrorKind where
  | client
  | interrupted
  | service
  | genericService
  | accessDenied
  | notFound
  | range
  | redirect
  | generic
  deriving DecidableEq, Repr, Inhabited

namespace ErrorKind

def all : List ErrorKind :=
  [client, interrupted, service, genericService, accessDenied, notFound, range, redirect, generic]

def value : ErrorKind → String
  | client => "client"
  | interrupted => "interrupted"
  | service => "service"
  | genericService => "generic_service"
  | accessDenied => "access_denied"
  | notFound => "not_found"
  | range => "range"
  | redirect => "redirect"
  | generic => "generic"

def name : ErrorKind → String
  | client => "CLIENT"
  | interrupted => "INTERRUPTED"
  | service => "SERVICE"
  | genericService => "GENERIC_SERVICE"
  | accessDenied => "ACCESS_DENIED"
  | notFound => "NOT_FOUND"
  | range => "RANGE"
  | redirect => "REDIRECT"
  | generic => "GENERIC"

def variantName : ErrorKind → String
  | client => "ClientSideError"
  | interrupted => "InterruptedOperationError"
  | service => "ServiceError"
  | genericService => "GenericServiceError"
  | accessDenied => "AccessDeniedError"
  | notFound => "NotFoundError"
  | range => "RangeError"
  | redirect => "RedirectError"
  | generic => "GenericError"

def ofValue? (word : String) : Option ErrorKind :=
  all.find? fun kind => kind.value = word

def ofVariantName? (word : String) : Option ErrorKind :=
  all.find? fun kind => kind.variantName = word

/-- Why a value names no kind: there is none of that name, or the name cannot even be shown. -/
inductive Unknown where
  | text (fault : TextFault)
  | kind (quotedForm : String)
  deriving DecidableEq, Repr

def Unknown.message : Unknown → String
  | .text fault => fault.message
  | .kind quotedForm => quotedForm ++ " is not a valid ErrorKind"

/-- The kind that a value names. Only texts name kinds. -/
def ofValue (word : Value) : Except Unknown ErrorKind :=
  let found := match word with
    | .text content => ofValue? content
    | _ => none
  match found with
  | some kind => .ok kind
  | none =>
      match word.quoted with
      | .ok quotedForm => .error (.kind quotedForm)
      | .error fault => .error (.text fault)

theorem of_value_value (kind : ErrorKind) : ofValue? kind.value = some kind := by
  cases kind <;> decide

end ErrorKind

end ObjectStore
