import ObjectStore.Classified
import ObjectStore.Response

/-!
# The body of a response

The error object is a structured body when it has a code that says more than the status. A response
to a request without a body is given a code that only repeats the status in digits; such an object
is no body. All entries of a body but the code and the message are its details.
-/

namespace ObjectStore

set_option autoImplicit false

def Record.code (entries : Record) : Value :=
  (entries.value? "Code").getD .null

def isLeadingKey (key : String) : Bool :=
  key == "Code" || key == "Message"

def detailsOf : Record → Except TextFault Details
  | [] => .ok []
  | (key, value) :: rest =>
      if isLeadingKey key then detailsOf rest
      else do
        let shown ← value.shown
        let others ← detailsOf rest
        return (key, shown) :: others

namespace Response

/-- A missing, falsy or purely decimal code makes an error object no body. -/
def body? (response : Response) : Except TextFault (Option Record) :=
  match response.error with
  | none => .ok none
  | some entries =>
      if Record.code entries |>.truthy then do
        let shown ← (Record.code entries).shown
        return if Text.isDecimal shown then none else some entries
      else .ok none

end Response

end ObjectStore
