import ObjectStore.Value

/-!
# Responses of the service that report a failure

A failed call carries the decoded response. Two parts of it matter here: the error object, with a
code and a message, and the metadata, with the status. Every entry may be missing or of any type.
-/

namespace ObjectStore

set_option autoImplicit false

structure Response where
  error : Option Record
  metadata : Option Record
  deriving Repr, BEq, Inhabited

namespace Response

def errorEntry? (response : Response) (key : String) : Option Value :=
  response.error.bind fun entries => entries.value? key

def metadataEntry? (response : Response) (key : String) : Option Value :=
  response.metadata.bind fun entries => entries.value? key

/-- The code as every report of a failed call quotes it, with a stand-in for a missing one. -/
def quotedCode (response : Response) : Except TextFault String :=
  ((response.errorEntry? "Code").getD (.text "Unknown")).shown

end Response

end ObjectStore
