import ObjectStore.Text.Fault
import ObjectStore.Text.Quoted

/-!
# Loosely typed values

Service responses, failure arguments and settings hold values whose type is only known when they
are looked at. A value can be shown plainly, where a text stands for itself, or quoted, where a
text stands between marks. The members of a list or a record are always quoted. Showing fails when
an integer somewhere inside has too many digits.
-/

namespace ObjectStore

set_option autoImplicit false

/-- A floating-point value is kept as its shortest decimal form. The entries of a record keep
their order and have distinct keys. -/
inductive Value where
  | null
  | boolean (truth : Bool)
  | integer (number : Int)
  | float (literal : String)
  | text (content : String)
  | bytes (content : List UInt8)
  | list (items : List Value)
  | record (entries : List (String × Value))
  deriving Repr, BEq, Inhabited

abbrev Record := List (String × Value)

def Record.value? (entries : Record) (key : String) : Option Value :=
  List.lookup key entries

namespace Value

def typeName : Value → String
  | .null => "NoneType"
  | .boolean _ => "bool"
  | .integer _ => "int"
  | .float _ => "float"
  | .text _ => "str"
  | .bytes _ => "bytes"
  | .list _ => "list"
  | .record _ => "dict"

def truthy : Value → Bool
  | .null => false
  | .boolean truth => truth
  | .integer number => number ≠ 0
  | .float literal => literal ≠ "0.0" && literal ≠ "-0.0"
  | .text content => content ≠ ""
  | .bytes content => !content.isEmpty
  | .list items => !items.isEmpty
  | .record entries => !entries.isEmpty

mutual

def quoted : Value → Except TextFault String
  | .null => .ok "None"
  | .boolean truth => .ok (if truth then "True" else "False")
  | .integer number => integerText number
  | .float literal => .ok literal
  | .text content => .ok (Text.quote content)
  | .bytes content => .ok (Text.quoteBytes content)
  | .list items => do
      let members ← quotedItems items
      return "[" ++ ", ".intercalate members ++ "]"
  | .record entries => do
      let members ← quotedEntries entries
      return "\x7b" ++ ", ".intercalate members ++ "\x7d"

def quotedItems : List Value → Except TextFault (List String)
  | [] => .ok []
  | item :: rest => do
      let first ← quoted item
      let others ← quotedItems rest
      return first :: others

def quotedEntries : List (String × Value) → Except TextFault (List String)
  | [] => .ok []
  | (key, value) :: rest => do
      let shown ← quoted value
      let others ← quotedEntries rest
      return (Text.quote key ++ ": " ++ shown) :: others

end

def shown : Value → Except TextFault String
  | .text content => .ok content
  | value => value.quoted

@[simp] theorem shown_integer (number : Int) :
    (Value.integer number).shown = integerText number := by
  simp [shown, quoted]

end Value

def quotedArguments (values : List Value) : Except TextFault String := do
  let members ← Value.quotedItems values
  return "(" ++ ", ".intercalate members ++ ")"

end ObjectStore
