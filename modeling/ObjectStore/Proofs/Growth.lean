import ObjectStore.Proofs.Chain

/-!
# Histories that grow

Making and raising failures only adds to a history. What was recorded before keeps its links, so
chains that start at recorded failures stay as they are, and with them the answer whether such a
failure is interrupted. For an interruption that was found this needs nothing else. That none is
found later either needs a closed history, whose links cannot lead to a place that a new failure
takes.
-/

namespace ObjectStore.History

set_option autoImplicit false

/-- More failures were recorded, and no link of an earlier one was changed. -/
structure Extends (earlier later : History) : Prop where
  size_le : earlier.size ≤ later.size
  kept : ∀ id, id < earlier.size → later.occurrence id = earlier.occurrence id

theorem extends_refl (history : History) : history.Extends history :=
  ⟨Nat.le_refl _, fun _ _ => rfl⟩

theorem extends_record (history : History) (added : Occurrence) :
    history.Extends (history.record added) := by
  constructor
  · simp
  · intro id recorded
    rw [history.occurrence_record added id, if_neg (Nat.ne_of_lt recorded)]

theorem failure_record_last (history : History) (added : Occurrence) :
    (history.record added).failure history.size = added.failure := by
  rw [failure, history.occurrence_record added, if_pos rfl]

theorem closed_record {history : History} (closed : history.Closed) (added : Occurrence)
    (linked : ∀ other, added.cause = some other ∨ added.context = some other →
      other < history.size) : (history.record added).Closed := by
  intro id recorded other link
  rw [history.occurrence_record added id] at link
  rw [history.size_record added] at recorded ⊢
  by_cases last : id = history.size
  · rw [if_pos last] at link
    exact Nat.lt_succ_of_lt (linked other link)
  · rw [if_neg last] at link
    exact Nat.lt_succ_of_lt (closed id (by omega) other link)

theorem closed_empty : empty.Closed := by
  intro id recorded
  exact absurd recorded (Nat.not_lt_zero id)

theorem closed_record_fresh {history : History} (closed : history.Closed) (failure : Failure) :
    (history.record (.fresh failure)).Closed := by
  apply closed_record closed
  rintro other (fromCause | fromContext)
  · cases fromCause
  · cases fromContext

theorem unclassified_empty (id : FailureId) : (empty.failure id).isStorage = false := by
  rw [failure, empty.occurrence_outside id (Nat.zero_le id)]
  rfl

theorem unclassified_record {history : History}
    (unclassified : ∀ id, (history.failure id).isStorage = false) {added : Occurrence}
    (other : added.failure.isStorage = false) (id : FailureId) :
    ((history.record added).failure id).isStorage = false := by
  rw [failure, history.occurrence_record added id]
  split
  · exact other
  · exact unclassified id

theorem next_recorded {history : History} (closed : history.Closed) (id other : FailureId)
    (linked : history.next? id = some other) : other < history.size := by
  apply closed id (history.linked_recorded id other linked) other
  simp only [next?, Occurrence.next] at linked
  split at linked
  · rename_i cause found
    exact Or.inl (found.trans linked)
  · split at linked
    · cases linked
    · exact Or.inr linked

theorem Extends.next {earlier later : History} (grown : earlier.Extends later)
    (id : FailureId) (recorded : id < earlier.size) : later.next? id = earlier.next? id := by
  rw [next?, grown.kept id recorded, next?]

theorem Extends.failure {earlier later : History} (grown : earlier.Extends later)
    (id : FailureId) (recorded : id < earlier.size) :
    later.failure id = earlier.failure id := by
  rw [History.failure, grown.kept id recorded, History.failure]

theorem Extends.is_interrupt {earlier later : History} (grown : earlier.Extends later)
    (id : FailureId) (recorded : id < earlier.size) :
    later.isInterrupt id = earlier.isInterrupt id := by
  rw [isInterrupt, grown.failure id recorded, isInterrupt]

theorem Extends.after {earlier later : History} (grown : earlier.Extends later)
    (start : FailureId) (links : Nat) (id : FailureId)
    (reached : earlier.after? start links = some id) :
    later.after? start links = some id := by
  induction links generalizing id with
  | zero => exact reached
  | succ links ih =>
      obtain ⟨middle, before, linked⟩ := Option.bind_eq_some_iff.mp reached
      have recorded := earlier.linked_recorded middle id linked
      rw [after?, ih middle before, Option.bind_some, grown.next middle recorded]
      exact linked

/-- In a closed history no chain comes to an end that could be continued later. -/
theorem Extends.after_before {earlier later : History} (grown : earlier.Extends later)
    (closed : earlier.Closed) (start : FailureId) (recorded : start < earlier.size)
    (links : Nat) (id : FailureId) (reached : later.after? start links = some id) :
    earlier.after? start links = some id ∧ id < earlier.size := by
  induction links generalizing id with
  | zero =>
      have same : start = id := Option.some.inj reached
      exact ⟨reached, same ▸ recorded⟩
  | succ links ih =>
      obtain ⟨middle, before, linked⟩ := Option.bind_eq_some_iff.mp reached
      obtain ⟨reachedBefore, middleRecorded⟩ := ih middle before
      rw [grown.next middle middleRecorded] at linked
      constructor
      · rw [after?, reachedBefore, Option.bind_some]
        exact linked
      · exact next_recorded closed middle id linked

/-- An interruption that was found is found in every later history. -/
theorem Extends.is_interrupted_of {earlier later : History} (grown : earlier.Extends later)
    (start : FailureId) (interrupted : earlier.isInterrupted (some start) = true) :
    later.isInterrupted (some start) = true := by
  obtain ⟨links, id, reached, interrupt⟩ :=
    (earlier.is_interrupted_iff_after start).mp interrupted
  have recorded := earlier.interrupt_recorded id interrupt
  apply (later.is_interrupted_iff_after start).mpr
  refine ⟨links, id, grown.after start links id reached, ?_⟩
  rw [grown.is_interrupt id recorded]
  exact interrupt

theorem Extends.is_interrupted {earlier later : History} (grown : earlier.Extends later)
    (closed : earlier.Closed) (start : FailureId) (recorded : start < earlier.size) :
    later.isInterrupted (some start) = earlier.isInterrupted (some start) := by
  apply Bool.eq_iff_iff.mpr
  constructor
  · intro interrupted
    obtain ⟨links, id, reached, interrupt⟩ :=
      (later.is_interrupted_iff_after start).mp interrupted
    obtain ⟨reachedBefore, idRecorded⟩ :=
      grown.after_before closed start recorded links id reached
    apply (earlier.is_interrupted_iff_after start).mpr
    refine ⟨links, id, reachedBefore, ?_⟩
    rw [← grown.is_interrupt id idRecorded]
    exact interrupt
  · exact grown.is_interrupted_of start

/-- A failure that is no interrupt is as interrupted as the one that its link leads to. -/
theorem is_interrupted_link (history : History) (id other : FailureId)
    (ordinary : history.isInterrupt id = false) (linked : history.next? id = some other) :
    history.isInterrupted (some id) = history.isInterrupted (some other) := by
  apply Bool.eq_iff_iff.mpr
  rw [history.is_interrupted_iff_after id, history.is_interrupted_iff_after other]
  have onward : ∀ links, history.after? id (links + 1) = history.after? other links := by
    intro links
    rw [history.after_link_first id links, linked, Option.bind_some]
  constructor
  · rintro ⟨links, found, reached, interrupt⟩
    cases links with
    | zero =>
        rw [← Option.some.inj reached, ordinary] at interrupt
        cases interrupt
    | succ links => exact ⟨links, found, (onward links).symm.trans reached, interrupt⟩
  · rintro ⟨links, found, reached, interrupt⟩
    exact ⟨links + 1, found, (onward links).trans reached, interrupt⟩

end ObjectStore.History
