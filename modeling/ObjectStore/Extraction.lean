import ObjectStore.Classify

/-!
# Extraction of a failure from a future or a wrapper

A failed future and a failure raised from another one both stand for an underlying failure.
Extraction finds it and classifies it. Client failures are classified like any other, a storage
failure gives back the very classified error it carries, and everything else is a generic failure.
A future that is not done or that succeeded holds no failure.
-/

namespace ObjectStore

set_option autoImplicit false

inductive FutureOwner where
  | threadPool
  | eventLoop
  deriving DecidableEq, Repr

inductive FutureState where
  | pending
  | running
  | cancelled (notified : Bool)
  | failed (failure : FailureId)
  | finished (result : Value)
  deriving Repr

inductive Source where
  | future (owner : FutureOwner) (state : FutureState)
  | failure (id : FailureId)
  deriving Repr

inductive ExtractionFault where
  | classification (fault : ClassificationFault)
  | notCompleted
  | noFailure
  deriving Repr

def ExtractionFault.failure : ExtractionFault → Failure
  | .classification fault => fault.failure
  | .notCompleted => .ofArguments "ValueError" [.text "Future has not completed"]
  | .noFailure => .ofArguments "ValueError" [.text "Future completed without an exception"]

/-- A future holds its failure; nothing stands for a cancelled one. -/
def FutureState.failure? : FutureState → Except ExtractionFault (Option FailureId)
  | .pending => .error .notCompleted
  | .running => .error .notCompleted
  | .cancelled _ => .ok none
  | .failed failure => .ok (some failure)
  | .finished _ => .error .noFailure

/-- Failures that the library classifies by itself are never looked through. -/
def isOpaqueWrapper (failure : Failure) : Bool :=
  failure.isFromClient || failure.isStorage

/-- The cause of a failure, unless it counts as false where it is tested. -/
def History.trueCause? (history : History) (id : FailureId) : Option FailureId :=
  (history.occurrence id).cause.filter fun cause => (history.failure cause).truth

/-- The underlying failure. Of a wrapper exactly one layer is removed. -/
def History.underlying (history : History) : Source → Except ExtractionFault (Option FailureId)
  | .future _ state => state.failure?
  | .failure id =>
      if isOpaqueWrapper (history.failure id) then .ok (some id)
      else .ok (some ((history.trueCause? id).getD id))

def cancellation (operation : String) : Failure :=
  .ofArguments "CancelledError" [.text (operation ++ " was cancelled")] [.futureCancelled]

/-- System failures from an earlier layer keep their own message. -/
def genericMessage (operation : String) (failure : Failure) (failureText : String) : String :=
  if failure.isSystem then failureText else operation ++ " failed: " ++ failureText

def genericError (operation : String) (label : Option String) (id : FailureId)
    (message : String) : ClassifiedError :=
  { variant := .generic, message, operation, cause := id, path := label, statusCode := none }

def cancelledError (operation : String) (label : Option String) (id : FailureId) :
    ClassifiedError :=
  { variant := .interrupted, message := operation ++ " failed: cancelled", operation, cause := id,
    path := label, statusCode := none }

namespace Journal

/-- The classified error for the failure behind a source. The label comes first, then the source
itself, then the texts. -/
def extract (journal : Journal) (operation : String) (path : Path) (source : Source) :
    Except ExtractionFault (Journal × Classification) := do
  let label ← path.label?.mapError .classification
  match ← journal.history.underlying source with
  | none =>
      let cancelled := journal.record (.fresh (cancellation operation))
      return cancelled.issue (cancelledError operation label journal.nextId)
  | some id =>
      let failure := journal.failure id
      if failure.isFromClient then
        (journal.classify operation path id).mapError .classification
      else
        match failure.stored with
        | some stored => return (journal, stored.classification)
        | none =>
            let failureText ← failure.text.mapError fun fault => .classification (.text fault)
            return journal.issue
              (genericError operation label id (genericMessage operation failure failureText))

end Journal

inductive TaskEnd where
  | pending
  | cancelled
  | raised (failure : FailureId)
  | returned (result : Value)
  deriving Repr

/-- The future of a task. A task that raises a cancellation was cancelled, and the end of an
iteration may not leave a coroutine: it is replaced by a failure raised from it. -/
def Journal.settle (journal : Journal) : TaskEnd → Journal × FutureState
  | .pending => (journal, .pending)
  | .cancelled => (journal, .cancelled false)
  | .returned result => (journal, .finished result)
  | .raised id =>
      if .iterationEnd ∈ (journal.failure id).classes then
        let replacement : Occurrence := {
          failure := .ofArguments "RuntimeError" [.text "coroutine raised StopIteration"]
          cause := some id
          context := some id
          suppressContext := true }
        (journal.record replacement, .failed journal.nextId)
      else if .taskCancelled ∈ (journal.failure id).classes then (journal, .cancelled false)
      else (journal, .failed id)

end ObjectStore
