import ObjectStore.Failure

/-!
# Paths and their labels

An operation may name the object it acted on by a text, by a path object or by any other value.
The label is the text that messages show. Only an absent path has no label; an empty text is one.
A path object that is asked for its text may give something else, or raise a failure.
-/

namespace ObjectStore

set_option autoImplicit false

/-- A path object of another class is known by its class and by what happens when it is asked for
its text. -/
inductive Path where
  | absent
  | text (content : String)
  | posix (content : String)
  | object (holder : String) (given : Value)
  | raising (failure : Failure)
  | other (value : Value)
  deriving Repr, Inhabited

inductive ClassificationFault where
  | text (fault : TextFault)
  | notPathText (holder found : String)
  | raised (failure : Failure)
  deriving Repr

namespace ClassificationFault

def failure : ClassificationFault → Failure
  | .text fault => .ofArguments fault.className [.text fault.message]
  | .notPathText holder found =>
      .ofArguments "TypeError"
        [.text s!"expected {holder}.__fspath__() to return str or bytes, not {found}"]
  | .raised failure => failure

end ClassificationFault

namespace Path

/-- Exactly two leading slashes are kept; any other number of them is one root. -/
def posixRoot (content : List Char) : List Char :=
  match (content.takeWhile (· == '/')).length with
  | 0 => []
  | 2 => ['/', '/']
  | _ => ['/']

def posixComponents (content : String) : List String :=
  (content.splitOn "/").filter fun component => component ≠ "" && component ≠ "."

/-- The normal text of a slash-separated path: no trailing or doubled slash, no single dot, and
double dots untouched. A path without root and components is a single dot. -/
def posixText (content : String) : String :=
  let root := String.ofList (posixRoot content.toList)
  let normal := root ++ "/".intercalate (posixComponents content)
  if normal = "" then "." else normal

def label? : Path → Except ClassificationFault (Option String)
  | .absent => .ok none
  | .text content => .ok (some content)
  | .posix content => .ok (some (posixText content))
  | .object _ (.text content) => .ok (some content)
  | .object _ (.bytes content) => .ok (some (Text.quoteBytes content))
  | .object holder given => .error (.notPathText holder given.typeName)
  | .raising failure => .error (.raised failure)
  | .other value => (value.shown.mapError .text).map some

end Path

end ObjectStore
