import ObjectStore.Settings.Entries
import ObjectStore.Settings.File.Bindings
import ObjectStore.Settings.File.Places

/-!
# Settings files

The bindings of a settings file are filled in one after another, so that a value may speak of what
the names before it are bound to at that place and of the environment. A repeated name keeps its
first place and ends with its last value.
-/

namespace ObjectStore.SettingsFile

set_option autoImplicit false

/-- The text of a name at some place of the file: what an earlier binding gave it, or else what
the environment gives it. A name bound to nothing counts as empty. -/
def textOf (environment : Entries String) (bound : Entries (Option String)) (name : String) :
    Option String :=
  match List.lookup name bound with
  | some value => some (value.getD "")
  | none => List.lookup name environment

def bind (environment : Entries String) (bound : Entries (Option String)) (binding : Binding) :
    Entries (Option String) :=
  bound.put binding.1 (binding.2.map fun value =>
    String.ofList (expand (textOf environment bound) value.toList))

def read (environment : Entries String) (content : String) : Entries (Option String) :=
  let characters := dropByteOrderMark (unifyLineEnds content.toList)
  (bindings characters).foldl (bind environment) []

end ObjectStore.SettingsFile
