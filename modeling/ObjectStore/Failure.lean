import ObjectStore.Classified
import ObjectStore.Failure.Class
import ObjectStore.Response

/-!
# Failures

A failure is what was raised. Of its class the name is kept and which of the classes that matter
here it belongs to: those of the storage client, with or without a response, those of the system,
those of interruptions, and that of storage failures, which carry a classified error. A class may
be a subclass of several of these, so belonging to one says nothing about the others. Every failure
has a plain text and a quoted form, either of which may be impossible to make, and counts as true
or false where it is tested.
-/

namespace ObjectStore

set_option autoImplicit false

/-- What a failure says: the values it was made from, shown by the rule of its class, or a text and
a quoted form of its own. A system failure that concerns files holds their names apart from its
arguments. -/
inductive Wording where
  | arguments (values : List Value)
  | missingKey (key : Value)
  | system (arguments : List Value) (files : Option (Value × Option Value))
  | group (message : Value) (members : List (Except TextFault String))
  | own (text quoted : Except TextFault String)
  deriving Repr

/-- A storage failure holds the cause of its classified error a second time. -/
structure StoredError where
  classification : Classification
  cause : FailureId
  deriving Repr

structure Failure where
  className : String
  wording : Wording
  truth : Bool := true
  classes : List OrdinaryClass := []
  systemClasses : List SystemClass := []
  isClient : Bool := false
  response : Option Response := none
  stored : Option StoredError := none
  deriving Repr

namespace Wording

/-- No arguments show nothing, one shows itself, several show as a quoted tuple. -/
def argumentsText : List Value → Except TextFault String
  | [] => .ok ""
  | [value] => value.shown
  | values => quotedArguments values

def quotedCall (className : String) (arguments : List Value) : Except TextFault String := do
  let members ← Value.quotedItems arguments
  return className ++ "(" ++ ", ".intercalate members ++ ")"

/-- Between two and five arguments of a system failure start with an error number and its
meaning. -/
def errorNumberText (arguments : List Value) : Except TextFault String :=
  if arguments.length ≤ 5 then
    match arguments with
    | number :: meaning :: _ => do
        let shownNumber ← number.shown
        let shownMeaning ← meaning.shown
        return "[Errno " ++ shownNumber ++ "] " ++ shownMeaning
    | _ => argumentsText arguments
  else argumentsText arguments

def systemText (arguments : List Value) : Option (Value × Option Value) →
    Except TextFault String
  | none => errorNumberText arguments
  | some (file, none) => do
      let leading ← errorNumberText arguments
      let first ← file.quoted
      return leading ++ ": " ++ first
  | some (file, some target) => do
      let leading ← errorNumberText arguments
      let first ← file.quoted
      let second ← target.quoted
      return leading ++ ": " ++ first ++ " -> " ++ second

def groupText (message : Value) (size : Nat) : Except TextFault String := do
  let shown ← message.shown
  let plural := if size = 1 then "" else "s"
  return s!"{shown} ({size} sub-exception{plural})"

def inOrder : List (Except TextFault String) → Except TextFault (List String)
  | [] => .ok []
  | step :: rest => do
      let first ← step
      let others ← inOrder rest
      return first :: others

def text : Wording → Except TextFault String
  | arguments values => argumentsText values
  | missingKey key => key.quoted
  | system values files => systemText values files
  | group message members => groupText message members.length
  | own text _ => text

def quoted (className : String) : Wording → Except TextFault String
  | arguments values => quotedCall className values
  | missingKey key => quotedCall className [key]
  | system values _ => quotedCall className values
  | group message members => do
      let shown ← message.quoted
      let others ← inOrder members
      return className ++ "(" ++ shown ++ ", [" ++ ", ".intercalate others ++ "])"
  | own _ quoted => quoted

end Wording

namespace Failure

def isService (failure : Failure) : Bool :=
  failure.response.isSome

def isFromClient (failure : Failure) : Bool :=
  failure.isService || failure.isClient

def isStorage (failure : Failure) : Bool :=
  failure.stored.isSome

def isSystem (failure : Failure) : Bool :=
  !failure.systemClasses.isEmpty

def isInterrupt (failure : Failure) : Bool :=
  failure.classes.any OrdinaryClass.isInterrupt ||
    failure.systemClasses.any SystemClass.isInterrupt

/-- The plain text. A rejected call quotes the code of its response, so it has no text when the code
has none. -/
def text (failure : Failure) : Except TextFault String :=
  match failure.response with
  | none => failure.wording.text
  | some response => do
      let _ ← response.quotedCode
      failure.wording.text

def quoted (failure : Failure) : Except TextFault String :=
  failure.wording.quoted failure.className

def ofArguments (className : String) (arguments : List Value)
    (classes : List OrdinaryClass := []) : Failure :=
  { className, classes, wording := .arguments arguments }

instance : Inhabited Failure := ⟨.ofArguments "Exception" []⟩

def ofResponse (className : String) (response : Response) (sentence : String) : Failure :=
  { className, wording := .arguments [.text sentence], response := some response }

def ofClient (className sentence : String) (systemClasses : List SystemClass := []) : Failure :=
  { className, systemClasses, wording := .arguments [.text sentence], isClient := true }

def ofClassification (classification : Classification) : Failure :=
  { className := "StorageError"
    wording := .arguments [.text classification.error.message]
    stored := some ⟨classification, classification.error.cause⟩ }

/-- The class that a system failure has by its own, or by its error number when it is of the
general class. -/
def systemClass (family : SystemClass) (exact : Bool) (arguments : List Value) : SystemClass :=
  if family = .general ∧ exact ∧ 2 ≤ arguments.length ∧ arguments.length ≤ 5 then
    match arguments.head? with
    | some (.integer number) => .ofErrorNumber number
    | some (.boolean true) => .ofErrorNumber 1
    | _ => .general
  else family

/-- A third argument names a file unless it counts what a blocked call has written. -/
def filesOf (family : SystemClass) (exact : Bool) : List Value → Option (Value × Option Value)
  | [_, _, file] => single family exact file
  | [_, _, file, _] => single family exact file
  | [_, _, file, _, target] =>
      (single family exact file).map fun (first, _) =>
        (first, if target == .null then none else some target)
  | _ => none
where
  single (family : SystemClass) (exact : Bool) (file : Value) : Option (Value × Option Value) :=
    match file with
    | .null => none
    | .integer _ => if exact && family = .blocking then none else some (file, none)
    | .boolean _ => if exact && family = .blocking then none else some (file, none)
    | _ => some (file, none)

/-- A system failure made from its arguments. Without a subclass name it is of the class itself,
which then may be replaced by the special case for its error number. -/
def ofSystem (family : SystemClass) (subclass : Option String) (arguments : List Value) : Failure :=
  let exact := subclass.isNone
  let actual := systemClass family exact arguments
  let files := filesOf actual exact arguments
  let kept := if files.isSome then arguments.take 2 else arguments
  { className := subclass.getD actual.name
    wording := .system kept files
    systemClasses := [actual] }

end Failure

end ObjectStore
