import ObjectStore.History.Chain
import ObjectStore.Journal
import ObjectStore.Path
import ObjectStore.Response.Body
import ObjectStore.Response.Status

/-!
# Classifying a failure

A rejected service call is classified by its status and its body; any other failure is an
interruption when its chain holds an interrupt, and a client-side failure otherwise. Making the
label of the path, the message and the details may fail, in that order, and nothing else can.
-/

namespace ObjectStore

set_option autoImplicit false

inductive StatusMeaning where
  | redirect
  | accessDenied
  | notFound
  | range
  | other
  deriving DecidableEq, Repr

def StatusMeaning.ofStatus : Option Int → StatusMeaning
  | some 301 => redirect
  | some 401 => accessDenied
  | some 403 => accessDenied
  | some 404 => notFound
  | some 410 => notFound
  | some 416 => range
  | _ => other

def failureMessage (operation : String) (label : Option String) (failureText : String) : String :=
  match label with
  | some label => operation ++ " on " ++ label ++ ": " ++ failureText
  | none => operation ++ ": " ++ failureText

def endpointVariable : String := "OBJSTORE_ENDPOINT_URL"

def redirectMessage (endpoint : String) : String :=
  s!"Received permanent redirect response to endpoint {endpoint}.  " ++
    "This likely indicates that the object store endpoint configured in " ++
    s!"{endpointVariable} does not match the region containing the bucket."

/-- The variant for a rejected call. Without a body a redirect and every unknown status are
generic. -/
def responseVariant (meaning : StatusMeaning) (body : Option Record) :
    Except TextFault Variant :=
  match meaning, body with
  | .accessDenied, _ => .ok .accessDenied
  | .notFound, _ => .ok .notFound
  | .range, _ => .ok .range
  | _, none => .ok .genericService
  | .redirect, some entries => do
      let details ← detailsOf entries
      return .redirect (List.lookup "Endpoint" details)
  | .other, some entries => do
      let code ← (Record.code entries).shown
      let details ← detailsOf entries
      return .service (some code) details

/-- A redirect to a known endpoint explains itself; every other variant keeps the message. -/
def variantMessage (message : String) : Variant → String
  | .redirect (some endpoint) => redirectMessage endpoint
  | _ => message

/-- The classified error for a failure, made in the given order: the label, the message, the body
and its details. -/
def History.classify (history : History) (operation : String) (path : Path) (id : FailureId) :
    Except ClassificationFault ClassifiedError := do
  let label ← path.label?
  let failureText ← (history.failure id).text.mapError .text
  let message := failureMessage operation label failureText
  match (history.failure id).response with
  | some response => do
      let status := response.status?
      let body ← response.body?.mapError .text
      let variant ← (responseVariant (.ofStatus status) body).mapError .text
      return {
        variant, message := variantMessage message variant, operation, cause := id, path := label,
        statusCode := status }
  | none =>
      let variant := if history.isInterrupted (some id) then Variant.interrupted
        else Variant.clientSide
      return { variant, message, operation, cause := id, path := label, statusCode := none }

def Journal.classify (journal : Journal) (operation : String) (path : Path) (id : FailureId) :
    Except ClassificationFault (Journal × Classification) := do
  let error ← journal.history.classify operation path id
  return journal.issue error

end ObjectStore
