import ObjectStore.History

/-!
# Failures not met yet

A walk over the links of a history must end although links may lead in circles. It keeps a mark
for every failure that it has not met, and strikes the mark of each failure that it meets. There
are fewer marks after every step.
-/

namespace ObjectStore

set_option autoImplicit false

structure Unseen where
  marks : Array Bool
  deriving Repr

namespace Unseen

def ofHistory (history : History) : Unseen :=
  ⟨Array.replicate history.size true⟩

def contains (unseen : Unseen) (id : FailureId) : Bool :=
  unseen.marks.getD id false

def strike (unseen : Unseen) (id : FailureId) : Unseen :=
  ⟨unseen.marks.setIfInBounds id false⟩

def count (unseen : Unseen) : Nat :=
  unseen.marks.count true

@[simp] theorem contains_of_history (history : History) (id : FailureId) :
    (ofHistory history).contains id = true ↔ id < history.size := by
  simp [ofHistory, contains, Array.getD_eq_getD_getElem?, Array.getElem?_replicate]
  split <;> simp_all

/-- Only the failure that is struck loses its mark. -/
theorem contains_strike (unseen : Unseen) (id other : FailureId) :
    (unseen.strike id).contains other = true ↔ other ≠ id ∧ unseen.contains other = true := by
  simp only [strike, contains, Array.getD_eq_getD_getElem?, Array.getElem?_setIfInBounds]
  by_cases same : id = other
  · subst same
    by_cases bound : id < unseen.marks.size <;> simp [bound]
  · have apart : other ≠ id := fun equal => same equal.symm
    simp [same, apart]

theorem count_strike_lt {unseen : Unseen} {id : FailureId} (marked : unseen.contains id = true) :
    (unseen.strike id).count < unseen.count := by
  have bound : id < unseen.marks.size := by
    apply Classical.byContradiction
    intro outside
    have absent : unseen.marks[id]? = none := by simpa using outside
    simp [contains, Array.getD_eq_getD_getElem?, absent] at marked
  have shown : unseen.marks[id] = true := by
    simpa [contains, Array.getD_eq_getD_getElem?, bound] using marked
  have member : true ∈ unseen.marks := shown ▸ Array.getElem_mem bound
  have positive : 0 < unseen.marks.count true := Array.count_pos_iff.mpr member
  simp only [strike, count, Array.setIfInBounds, bound, dite_true]
  rw [Array.count_set bound, shown]
  simp only [beq_self_eq_true, Bool.false_beq, Bool.not_true, Bool.false_eq_true, if_true, if_false]
  omega

end Unseen

end ObjectStore
