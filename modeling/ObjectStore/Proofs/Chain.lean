import ObjectStore.History.Chain

/-!
# What the walk along a chain finds

The walk of `History.examined` stops at the first failure that it meets a second time, while the
chain itself may run in a circle for ever. Two facts tie them together. Every failure that the
walk looks at lies as many links down the chain as it has in front of it. And a walk that meets no
interrupt ends on a set that the links do not leave, so nothing further down is missed.
-/

namespace ObjectStore

set_option autoImplicit false

namespace History

theorem next_outside (history : History) (id : FailureId) (outside : history.size ≤ id) :
    history.next? id = none := by
  rw [next?, history.occurrence_outside id outside]
  rfl

theorem linked_recorded (history : History) (id other : FailureId)
    (linked : history.next? id = some other) : id < history.size := by
  apply Nat.lt_of_not_le
  intro outside
  rw [history.next_outside id outside] at linked
  cases linked

theorem interrupt_recorded (history : History) (id : FailureId)
    (interrupt : history.isInterrupt id = true) : id < history.size := by
  apply Nat.lt_of_not_le
  intro outside
  rw [isInterrupt, failure, history.occurrence_outside id outside] at interrupt
  cases interrupt

theorem after_link_first (history : History) (start : FailureId) (links : Nat) :
    history.after? start (links + 1) =
      (history.next? start).bind fun id => history.after? id links := by
  induction links with
  | zero =>
      cases linked : history.next? start <;> simp [after?, linked]
  | succ links ih =>
      rw [after?, ih]
      cases linked : history.next? start with
      | none => rfl
      | some id => rfl

/-- The walk looks at the failures of the chain in the order of the chain. -/
theorem examined_among_position (history : History) (unseen : Unseen)
    (current : Option FailureId) (position : Nat) (id : FailureId)
    (found : (history.examinedAmong unseen current)[position]? = some id) :
    (current.bind fun start => history.after? start position) = some id := by
  fun_induction history.examinedAmong unseen current generalizing position with
  | case1 => simp at found
  | case2 unseen start marked interrupt =>
      cases position with
      | zero => simpa [after?] using found
      | succ position => simp at found
  | case3 unseen start marked ordinary ih =>
      cases position with
      | zero => simpa [after?] using found
      | succ position =>
          have later := ih position (by simpa using found)
          rw [Option.bind_some, history.after_link_first start position]
          exact later
  | case4 => simp at found

/-- Without an interrupt on its way the walk ends only at the end of the chain or at a failure
whose mark was struck, so the links lead from what it looked at to nothing else. -/
theorem examined_among_closed (history : History) (unseen : Unseen)
    (current : Option FailureId)
    (ordinary : ∀ id ∈ history.examinedAmong unseen current, history.isInterrupt id = false) :
    (∀ id, current = some id →
        id ∈ history.examinedAmong unseen current ∨ unseen.contains id = false) ∧
      ∀ id ∈ history.examinedAmong unseen current, ∀ other, history.next? id = some other →
        other ∈ history.examinedAmong unseen current ∨ unseen.contains other = false := by
  fun_induction history.examinedAmong unseen current with
  | case1 => simp
  | case2 unseen start marked interrupt =>
      have refuted := ordinary start (by simp)
      rw [interrupt] at refuted
      cases refuted
  | case3 unseen start marked _ ih =>
      obtain ⟨first, later⟩ := ih fun id member => ordinary id (by simp [member])
      -- A mark that the rest of the walk misses is the one just struck, or was missing before.
      have missed : ∀ other, (unseen.strike start).contains other = false →
          other = start ∨ unseen.contains other = false := by
        intro other struck
        by_cases same : other = start
        · exact Or.inl same
        · right
          apply Bool.eq_false_iff.mpr
          intro kept
          have both := (unseen.contains_strike start other).mpr ⟨same, kept⟩
          rw [struck] at both
          cases both
      refine ⟨fun id same => Or.inl (by simp [Option.some.inj same]), ?_⟩
      intro id member other linked
      have onward : other ∈ history.examinedAmong (unseen.strike start) (history.next? start) ∨
          (unseen.strike start).contains other = false := by
        rcases List.mem_cons.mp member with rfl | inRest
        · exact first other linked
        · exact later id inRest other linked
      rcases onward with inRest | struck
      · exact Or.inl (List.mem_cons_of_mem _ inRest)
      · rcases missed other struck with rfl | absent
        · exact Or.inl List.mem_cons_self
        · exact Or.inr absent
  | case4 unseen start unmarked =>
      constructor
      · intro id same
        right
        rw [← Option.some.inj same]
        exact Bool.eq_false_iff.mpr unmarked
      · simp

/-- When the walk meets no interrupt, all that lies down the chain was looked at or was never
recorded. -/
theorem after_examined (history : History) (start : FailureId)
    (ordinary : ∀ id ∈ history.examined (some start), history.isInterrupt id = false)
    (links : Nat) (id : FailureId) (reached : history.after? start links = some id) :
    id ∈ history.examined (some start) ∨ history.size ≤ id := by
  obtain ⟨first, later⟩ :=
    history.examined_among_closed (.ofHistory history) (some start) ordinary
  have unrecorded : ∀ other, (Unseen.ofHistory history).contains other = false →
      history.size ≤ other := by
    intro other unmarked
    apply Nat.le_of_not_lt
    intro recorded
    rw [(Unseen.contains_of_history history other).mpr recorded] at unmarked
    cases unmarked
  induction links generalizing id with
  | zero => exact (first id reached).imp_right (unrecorded id)
  | succ links ih =>
      obtain ⟨middle, before, linked⟩ := Option.bind_eq_some_iff.mp reached
      rcases ih middle before with looked | outside
      · exact (later middle looked id linked).imp_right (unrecorded id)
      · have recorded := history.linked_recorded middle id linked
        exact absurd recorded (Nat.not_lt_of_le outside)

theorem is_interrupted_iff_after (history : History) (start : FailureId) :
    history.isInterrupted (some start) = true ↔
      ∃ links id, history.after? start links = some id ∧ history.isInterrupt id = true := by
  constructor
  · intro interrupted
    obtain ⟨id, member, interrupt⟩ := List.any_eq_true.mp interrupted
    obtain ⟨position, found⟩ := List.mem_iff_getElem?.mp member
    exact ⟨position, id,
      history.examined_among_position (.ofHistory history) (some start) position id found,
      interrupt⟩
  · rintro ⟨links, id, reached, interrupt⟩
    apply Classical.byContradiction
    intro missed
    have ordinary : ∀ other ∈ history.examined (some start),
        history.isInterrupt other = false := by
      intro other member
      apply Bool.eq_false_iff.mpr
      intro found
      exact missed (List.any_eq_true.mpr ⟨other, member, found⟩)
    rcases history.after_examined start ordinary links id reached with looked | outside
    · rw [ordinary id looked] at interrupt
      cases interrupt
    · have recorded := history.interrupt_recorded id interrupt
      exact absurd recorded (Nat.not_lt_of_le outside)

end History

end ObjectStore
