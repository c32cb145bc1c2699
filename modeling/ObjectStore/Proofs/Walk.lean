import ObjectStore.Proofs.DistinctPrefix

/-!
# How far the walk along a chain goes

The walk of `History.examined` strikes marks. Here it is also taken as a loop that keeps the
failures it has looked at and looks at one more in each iteration. Both look at the same failures,
in the same order: at the longest part of the chain in which no failure stands twice, or at that
part up to its first interrupt.
-/

namespace ObjectStore

set_option autoImplicit false

/-- A walk under way: what it has looked at, the latest first, where that leads, and whether the
latest was an interrupt. -/
structure Walk where
  seen : List FailureId
  onward : Option FailureId
  interrupted : Bool
  deriving Repr, DecidableEq

namespace Walk

def ofStart (start : FailureId) : Walk where
  seen := []
  onward := some start
  interrupted := false

/-- The failure for the next iteration. There is none behind an interrupt, at the end of the chain
and where the chain leads back to a failure that was looked at. -/
def upcoming? (walk : Walk) : Option FailureId :=
  if walk.interrupted then none
  else walk.onward.filter fun id => id ∉ walk.seen

def lookAt (history : History) (walk : Walk) (id : FailureId) : Walk where
  seen := id :: walk.seen
  onward := history.next? id
  interrupted := history.isInterrupt id

def run? (history : History) : Nat → Walk → Option Walk
  | 0, walk => some walk
  | iterations + 1, walk =>
      walk.upcoming?.bind fun id => run? history iterations (walk.lookAt history id)

/-- The walk looks at these failures, at one in each iteration, and has stopped then. -/
def LooksAt (history : History) (walk : Walk) (failures : List FailureId) : Prop :=
  ∃ finish, run? history failures.length walk = some finish ∧ finish.upcoming? = none ∧
    finish.seen = failures.reverse ++ walk.seen ∧
    finish.interrupted = (walk.interrupted || failures.any history.isInterrupt)

variable {history : History} {walk : Walk}

theorem looks_at_nothing (stopped : walk.upcoming? = none) : walk.LooksAt history [] := by
  refine ⟨walk, rfl, stopped, rfl, ?_⟩
  rw [List.any_nil, Bool.or_false]

theorem looks_at_cons {id : FailureId} {failures : List FailureId}
    (upcoming : walk.upcoming? = some id)
    (later : (walk.lookAt history id).LooksAt history failures) :
    walk.LooksAt history (id :: failures) := by
  obtain ⟨finish, ran, stopped, seen, interrupted⟩ := later
  have ordinary : walk.interrupted = false := by
    cases found : walk.interrupted
    · rfl
    · simp [upcoming?, found] at upcoming
  refine ⟨finish, ?_, stopped, ?_, ?_⟩
  · rw [List.length_cons, run?, upcoming, Option.bind_some]
    exact ran
  · rw [seen, List.reverse_cons, List.append_assoc]
    rfl
  · rw [interrupted, ordinary, Bool.false_or, List.any_cons]
    rfl

/-- The marks that are left tell what a walk has not looked at, and where it stands was recorded. -/
structure Tracked (history : History) (unseen : Unseen) (walk : Walk) : Prop where
  ordinary : walk.interrupted = false
  recorded : ∀ id, walk.onward = some id → id < history.size
  unseen_iff : ∀ id, unseen.contains id = true ↔ id < history.size ∧ id ∉ walk.seen

theorem tracked_of_start {start : FailureId} (recorded : start < history.size) :
    Tracked history (.ofHistory history) (ofStart start) := by
  constructor
  · rfl
  · intro id same
    exact Option.some.inj same ▸ recorded
  · intro id
    rw [Unseen.contains_of_history history id]
    simp [ofStart]

/-- Looking at a failure strikes its mark. -/
theorem Tracked.look_at {unseen : Unseen} (tracked : Tracked history unseen walk)
    (closed : history.Closed) {id : FailureId} (ordinary : history.isInterrupt id = false) :
    Tracked history (unseen.strike id) (walk.lookAt history id) := by
  constructor
  · exact ordinary
  · intro other linked
    exact History.next_recorded closed id other linked
  · intro other
    rw [unseen.contains_strike id other, tracked.unseen_iff other]
    simp only [lookAt, List.mem_cons, not_or]
    exact and_left_comm

theorem Tracked.upcoming {unseen : Unseen} (tracked : Tracked history unseen walk)
    {id : FailureId} (onward : walk.onward = some id) :
    walk.upcoming? = if unseen.contains id then some id else none := by
  have recorded := tracked.recorded id onward
  have marked := tracked.unseen_iff id
  by_cases seen : id ∈ walk.seen
  · have unmarked : unseen.contains id = false := by
      apply Bool.eq_false_iff.mpr
      intro kept
      exact (marked.mp kept).2 seen
    simp [upcoming?, tracked.ordinary, onward, seen, unmarked]
  · have kept : unseen.contains id = true := marked.mpr ⟨recorded, seen⟩
    simp [upcoming?, tracked.ordinary, onward, seen, kept]

/-- The loop looks at what the walk with marks looks at. -/
theorem Tracked.looks_at_examined {unseen : Unseen} (tracked : Tracked history unseen walk)
    (closed : history.Closed) :
    walk.LooksAt history (history.examinedAmong unseen walk.onward) := by
  generalize place : walk.onward = current
  -- The walk with marks strikes one exactly where the loop notes a failure, so tracking goes on.
  fun_induction history.examinedAmong unseen current generalizing walk with
  | case1 unseen =>
      apply looks_at_nothing
      simp [upcoming?, place]
  | case2 unseen id marked interrupt =>
      apply looks_at_cons
      · rw [tracked.upcoming place, if_pos marked]
      · apply looks_at_nothing
        simp [upcoming?, lookAt, interrupt]
  | case3 unseen id marked ordinary ih =>
      apply looks_at_cons
      · rw [tracked.upcoming place, if_pos marked]
      · exact ih (tracked.look_at closed (Bool.eq_false_iff.mpr ordinary)) rfl
  | case4 unseen id unmarked =>
      apply looks_at_nothing
      rw [tracked.upcoming place, if_neg unmarked]

end Walk

namespace History

def upToInterrupt (history : History) (failures : List FailureId) : List FailureId :=
  failures.take (failures.findIdx history.isInterrupt + 1)

theorem up_to_interrupt_cons (history : History) (id : FailureId) (failures : List FailureId) :
    history.upToInterrupt (id :: failures) =
      if history.isInterrupt id then [id] else id :: history.upToInterrupt failures := by
  rw [upToInterrupt, List.findIdx_cons]
  cases history.isInterrupt id <;> simp [upToInterrupt]

/-- What stands behind the first interrupt does not matter. -/
theorem up_to_interrupt_append (history : History) (failures rest : List FailureId)
    (interrupted : ∃ id ∈ failures, history.isInterrupt id = true) :
    history.upToInterrupt (failures ++ rest) = history.upToInterrupt failures := by
  have within := List.findIdx_lt_length.mpr interrupted
  rw [upToInterrupt, List.findIdx_append, if_pos within]
  exact List.take_append_of_le_length within

/-- The walk looks at nothing behind an interrupt. -/
theorem examined_among_up_to_interrupt (history : History) (unseen : Unseen)
    (current : Option FailureId) :
    history.upToInterrupt (history.examinedAmong unseen current) =
      history.examinedAmong unseen current := by
  fun_induction history.examinedAmong unseen current with
  | case1 => rfl
  | case2 unseen id marked interrupt =>
      rw [history.up_to_interrupt_cons id [], if_pos interrupt]
  | case3 unseen id marked ordinary ih =>
      rw [history.up_to_interrupt_cons id, if_neg ordinary, ih]
  | case4 => rfl

theorem examined_distinct (history : History) (start : FailureId) :
    history.DistinctPrefix start (history.examined (some start)) := by
  constructor
  · intro position id found
    exact history.examined_among_position (.ofHistory history) (some start) position id found
  · exact history.examined_among_nodup (.ofHistory history) (some start)

variable {history : History} {start : FailureId} {failures : List FailureId}

/-- Without an interrupt on its way the walk looks at everything that the chain leads to. -/
theorem LongestDistinctPrefix.examined_of_ordinary
    (longest : history.LongestDistinctPrefix start failures) (closed : history.Closed)
    (recorded : start < history.size)
    (ordinary : ∀ id ∈ history.examined (some start), history.isInterrupt id = false) :
    history.examined (some start) = failures := by
  have leading := longest.starts_with (history.examined_distinct start)
  have within : failures ⊆ history.examined (some start) := by
    intro id member
    obtain ⟨links, reached⟩ := longest.toDistinctPrefix.reached id member
    rcases history.after_examined start ordinary links id reached with looked | outside
    · exact looked
    · have inside := reached_recorded closed recorded id ⟨links, reached⟩
      exact absurd inside (Nat.not_lt_of_le outside)
  exact leading.eq_of_length_le (longest.nodup.subperm within).length_le

theorem LongestDistinctPrefix.examined
    (longest : history.LongestDistinctPrefix start failures) (closed : history.Closed)
    (recorded : start < history.size) :
    history.examined (some start) = history.upToInterrupt failures := by
  have cut : history.upToInterrupt (history.examined (some start)) =
      history.examined (some start) :=
    history.examined_among_up_to_interrupt (.ofHistory history) (some start)
  cases answer : history.isInterrupted (some start) with
  | true =>
      have interrupted := List.any_eq_true.mp answer
      obtain ⟨rest, whole⟩ := longest.starts_with (history.examined_distinct start)
      rw [← whole, history.up_to_interrupt_append _ rest interrupted, cut]
  | false =>
      have ordinary : ∀ id ∈ history.examined (some start), history.isInterrupt id = false := by
        intro id member
        exact Bool.eq_false_iff.mpr (List.any_eq_false.mp answer id member)
      rw [← longest.examined_of_ordinary closed recorded ordinary, cut]

/-- However its links lead, the walk looks at the longest part of the chain in which no failure
stands twice, up to the first interrupt in it: at each failure once, and at no more failures than
the chain leads to. The loop has stopped after as many iterations, with the answer whether the
start is interrupted. -/
theorem walk_examines_longest_distinct_prefix (closed : history.Closed)
    (recorded : start < history.size) :
    (∃ failures, history.LongestDistinctPrefix start failures) ∧
      (∀ failures, history.LongestDistinctPrefix start failures →
        history.examined (some start) = history.upToInterrupt failures) ∧
      (history.examined (some start)).Nodup ∧
      (history.reachedFrom start).Finite ∧
      (history.examined (some start)).length ≤ (history.reachedFrom start).ncard ∧
      ∃ finish,
        Walk.run? history (history.examined (some start)).length (.ofStart start) = some finish ∧
        finish.upcoming? = none ∧
        finish.seen.reverse = history.examined (some start) ∧
        finish.interrupted = history.isInterrupted (some start) := by
  obtain ⟨failures, longest⟩ := longest_distinct_prefix_exists closed recorded
  have distinct := history.examined_distinct start
  refine ⟨⟨failures, longest⟩, ?_, distinct.nodup, longest.finite, ?_, ?_⟩
  · intro other longestOther
    exact longestOther.examined closed recorded
  · rw [← longest.length_eq_ncard]
    exact longest.longest _ distinct
  · obtain ⟨finish, ran, stopped, seen, interrupted⟩ :=
      (Walk.tracked_of_start recorded).looks_at_examined closed
    refine ⟨finish, ran, stopped, ?_, interrupted⟩
    rw [seen, List.reverse_append, List.reverse_reverse]
    rfl

/-- Four failures in a chain, of which the last leads back to the second and the third is an
interrupt. The first one passes over a fifth, also an interrupt, because it has a cause. -/
def interruptedCircle : History :=
  ⟨#[
    { Occurrence.fresh (.ofArguments "RuntimeError" []) with
      cause := some 1
      context := some 4 },
    { Occurrence.fresh (.ofClient "NoCredentialsError" "Unable to locate credentials") with
      context := some 2 },
    { Occurrence.fresh (.ofArguments "KeyboardInterrupt" [] [.keyboardInterrupt]) with
      context := some 3 },
    { Occurrence.fresh (.ofClient "NoRegionError" "You must specify a region.") with
      cause := some 1
      suppressContext := true },
    .fresh (.ofSystem .timeout none [])]⟩

theorem interrupted_circle_longest :
    interruptedCircle.LongestDistinctPrefix 0 [0, 1, 2, 3] := by
  have distinct : interruptedCircle.DistinctPrefix 0 [0, 1, 2, 3] := by
    constructor
    · intro position id found
      match position with
      | 0 | 1 | 2 | 3 => exact found
      | position + 4 => cases found
    · decide
  apply distinct.longest_of_onward
  intro id reached
  have same : 1 = id := Option.some.inj reached
  rw [← same]
  decide

/-- The walk ends at the interrupt, one failure before the chain repeats itself. -/
theorem interrupted_circle_walked :
    interruptedCircle.Closed ∧ 0 < interruptedCircle.size ∧
      interruptedCircle.examined (some 0) = [0, 1, 2] ∧
      3 ≤ (interruptedCircle.reachedFrom 0).ncard ∧
      ∃ finish, Walk.run? interruptedCircle 3 (.ofStart 0) = some finish ∧
        finish.upcoming? = none ∧ finish.seen.reverse = [0, 1, 2] ∧
        finish.interrupted = true := by
  have closed : interruptedCircle.Closed := by decide
  have recorded : 0 < interruptedCircle.size := by decide
  obtain ⟨_, examines, _, _, bound, finish, ran, stopped, seen, interrupted⟩ :=
    walk_examines_longest_distinct_prefix closed recorded
  have examined : interruptedCircle.examined (some 0) = [0, 1, 2] :=
    examines [0, 1, 2, 3] interrupted_circle_longest
  rw [isInterrupted] at interrupted
  rw [examined] at bound ran seen interrupted
  exact ⟨closed, recorded, examined, bound, finish, ran, stopped, seen, interrupted⟩

end History

end ObjectStore
