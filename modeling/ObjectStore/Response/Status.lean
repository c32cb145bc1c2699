import ObjectStore.Response

/-!
# The status of a response

The status is the number in the metadata, or, where that is missing or unusable, the code of the
error object read as a number. Integers count, and so do texts of decimal digits in any script
that are not too long; truth values, fractions, bytes and texts with a sign do not.
-/

namespace ObjectStore

set_option autoImplicit false

def Value.status? : Value → Option Int
  | .integer number => some number
  | .text content => (Text.decimalValue? content).map Int.ofNat
  | _ => none

namespace Response

def metadataStatus? (response : Response) : Option Int :=
  (response.metadataEntry? "HTTPStatusCode").bind Value.status?

def codeStatus? (response : Response) : Option Int :=
  (response.errorEntry? "Code").bind Value.status?

def status? (response : Response) : Option Int :=
  match response.metadataStatus? with
  | some status => some status
  | none => response.codeStatus?

theorem status_of_metadata (response : Response) (status : Int)
    (usable : response.metadataStatus? = some status) : response.status? = some status := by
  simp [status?, usable]

theorem status_of_code (response : Response) (unusable : response.metadataStatus? = none) :
    response.status? = response.codeStatus? := by
  simp [status?, unusable]

end Response

end ObjectStore
