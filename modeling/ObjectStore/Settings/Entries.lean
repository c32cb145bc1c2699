/-!
# Named entries in order

Variables and bindings are listed in the order in which their names first came up. Giving a known
name a new value keeps its place.
-/

namespace ObjectStore

set_option autoImplicit false

/-- Values by name, in the order of the names. -/
abbrev Entries (α : Type) := List (String × α)

namespace Entries

variable {α : Type}

def put (entries : Entries α) (name : String) (value : α) : Entries α :=
  if entries.any (·.1 == name) then
    entries.map fun entry => if entry.1 == name then (name, value) else entry
  else entries ++ [(name, value)]

def drop (entries : Entries α) (name : String) : Entries α :=
  entries.filter fun entry => entry.1 != name

end Entries

end ObjectStore
