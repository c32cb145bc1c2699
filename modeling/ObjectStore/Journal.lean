import ObjectStore.History

/-!
# The journal

A journal is the history of failures together with the count of the classified errors handed out,
so that each of these has a number of its own.
-/

namespace ObjectStore

set_option autoImplicit false

structure Journal where
  history : History
  issued : Nat
  deriving Repr, Inhabited

namespace Journal

def empty : Journal := ⟨History.empty, 0⟩

def failure (journal : Journal) (id : FailureId) : Failure :=
  journal.history.failure id

def nextId (journal : Journal) : FailureId :=
  journal.history.size

def record (journal : Journal) (occurrence : Occurrence) : Journal :=
  { journal with history := journal.history.record occurrence }

def issue (journal : Journal) (error : ClassifiedError) : Journal × Classification :=
  ({ journal with issued := journal.issued + 1 }, ⟨journal.issued, error⟩)

/-- A storage failure made from a classified error but not raised. -/
def wrap (journal : Journal) (classification : Classification) : Journal × FailureId :=
  (journal.record (.fresh (.ofClassification classification)), journal.nextId)

/-- Raises a classified error as a new storage failure from its cause, outside every handler or
while the given failure is handled. -/
def raise (journal : Journal) (classification : Classification) (handled : Option FailureId) :
    Journal × FailureId :=
  (journal.record {
      failure := .ofClassification classification
      cause := some classification.error.cause
      context := handled
      suppressContext := true },
    journal.nextId)

theorem failure_record (journal : Journal) (added : Occurrence) (id : FailureId) :
    (journal.record added).failure id =
      if id = journal.nextId then added.failure else journal.failure id := by
  by_cases last : id = journal.history.size <;>
    simp [failure, record, nextId, History.failure, History.occurrence_record, last]

theorem failure_raise (journal : Journal) (classification : Classification)
    (handled : Option FailureId) :
    (journal.raise classification handled).1.failure journal.nextId =
      .ofClassification classification := by
  simp [raise, failure_record]

end Journal

end ObjectStore
