import ObjectStore.Failure

/-!
# The history of failures

Failures are recorded in the order in which they are made and are known by their place. Beside
what it is, each one keeps three links: the failure it was raised from, the failure that was being
handled when it was raised, and whether that second one is to be passed over. Links may lead
anywhere, back to the failure itself included. What a failure is never changes; its links do.
-/

namespace ObjectStore

set_option autoImplicit false

structure Occurrence where
  failure : Failure
  cause : Option FailureId
  context : Option FailureId
  suppressContext : Bool
  deriving Repr

namespace Occurrence

def fresh (failure : Failure) : Occurrence where
  failure := failure
  cause := none
  context := none
  suppressContext := false

instance : Inhabited Occurrence := ⟨fresh default⟩

/-- Raising a failure from another one, or from none, hides what was being handled. -/
def raisedFrom (occurrence : Occurrence) (cause : Option FailureId) : Occurrence :=
  { occurrence with cause := cause, suppressContext := true }

/-- The next link of the chain: the cause, or else the context unless it is passed over. -/
def next (occurrence : Occurrence) : Option FailureId :=
  match occurrence.cause with
  | some cause => some cause
  | none => if occurrence.suppressContext then none else occurrence.context

end Occurrence

structure History where
  occurrences : Array Occurrence
  deriving Repr

namespace History

def empty : History := ⟨#[]⟩

instance : Inhabited History := ⟨empty⟩

def size (history : History) : Nat :=
  history.occurrences.size

/-- A place where nothing was recorded reads as a bare failure without links. -/
def occurrence (history : History) (id : FailureId) : Occurrence :=
  history.occurrences.getD id default

def failure (history : History) (id : FailureId) : Failure :=
  (history.occurrence id).failure

def record (history : History) (occurrence : Occurrence) : History :=
  ⟨history.occurrences.push occurrence⟩

def adjust (history : History) (id : FailureId) (change : Occurrence → Occurrence) : History :=
  ⟨history.occurrences.modify id change⟩

def Closed (history : History) : Prop :=
  ∀ id, id < history.size → ∀ other,
    (history.occurrence id).cause = some other ∨ (history.occurrence id).context = some other →
      other < history.size

theorem closed_iff_links (history : History) :
    history.Closed ↔ ∀ id, id < history.size →
      (∀ other ∈ (history.occurrence id).cause, other < history.size) ∧
        ∀ other ∈ (history.occurrence id).context, other < history.size := by
  constructor
  · intro closed id recorded
    exact ⟨fun other linked => closed id recorded other (Or.inl linked),
      fun other linked => closed id recorded other (Or.inr linked)⟩
  · intro links id recorded other link
    obtain ⟨fromCause, fromContext⟩ := links id recorded
    cases link with
    | inl linked => exact fromCause other linked
    | inr linked => exact fromContext other linked

instance (history : History) : Decidable history.Closed :=
  decidable_of_iff _ history.closed_iff_links.symm

@[simp] theorem size_record (history : History) (occurrence : Occurrence) :
    (history.record occurrence).size = history.size + 1 := by
  simp [record, size]

@[simp] theorem size_adjust (history : History) (id : FailureId)
    (change : Occurrence → Occurrence) : (history.adjust id change).size = history.size := by
  simp [adjust, size]

theorem occurrence_outside (history : History) (id : FailureId) (outside : history.size ≤ id) :
    history.occurrence id = default := by
  have absent : history.occurrences[id]? = none := by
    simpa [size] using outside
  simp [occurrence, Array.getD_eq_getD_getElem?, absent]

/-- The latest record stands at the old size, and the earlier ones stay where they were. -/
theorem occurrence_record (history : History) (added : Occurrence) (id : FailureId) :
    (history.record added).occurrence id =
      if id = history.size then added else history.occurrence id := by
  simp only [occurrence, record, size, Array.getD_eq_getD_getElem?, Array.getElem?_push]
  split <;> simp

/-- Adjusting one record leaves all others as they are. -/
theorem occurrence_adjust (history : History) (id other : FailureId)
    (change : Occurrence → Occurrence) (recorded : id < history.size) :
    (history.adjust id change).occurrence other =
      if other = id then change (history.occurrence id) else history.occurrence other := by
  have bound : id < history.occurrences.size := recorded
  simp only [occurrence, adjust, Array.getD_eq_getD_getElem?, Array.getElem?_modify]
  by_cases same : other = id
  · subst same
    simp [bound]
  · have apart : id ≠ other := fun equal => same equal.symm
    simp [same, apart]

end History

end ObjectStore
