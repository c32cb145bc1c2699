import ObjectStore.History.Unseen

/-!
# The chain of causes

From every failure one chain leads on: to its cause if it has one, otherwise to its context unless
that is passed over. The walk along the chain ends at the first interrupt, at the end of the
chain, and at a failure it has seen before.
-/

namespace ObjectStore.History

set_option autoImplicit false

def next? (history : History) (id : FailureId) : Option FailureId :=
  (history.occurrence id).next

def isInterrupt (history : History) (id : FailureId) : Bool :=
  (history.failure id).isInterrupt

def after? (history : History) (start : FailureId) : Nat → Option FailureId
  | 0 => some start
  | links + 1 => (history.after? start links).bind history.next?

/-- The failures that the walk looks at, in order, when only the marked ones are still unseen. -/
def examinedAmong (history : History) (unseen : Unseen) (current : Option FailureId) :
    List FailureId :=
  match current with
  | none => []
  | some id =>
      if _marked : unseen.contains id = true then
        if history.isInterrupt id then [id]
        else id :: history.examinedAmong (unseen.strike id) (history.next? id)
      else []
termination_by unseen.count
decreasing_by exact Unseen.count_strike_lt _marked

def examined (history : History) (start : Option FailureId) : List FailureId :=
  history.examinedAmong (.ofHistory history) start

def isInterrupted (history : History) (start : Option FailureId) : Bool :=
  (history.examined start).any history.isInterrupt

/-- Follows the chain for a number of failures, seen before or not, and tells where it would go
on. -/
def follow (history : History) : Nat → Option FailureId → List FailureId × Option FailureId
  | 0, current => ([], current)
  | _ + 1, none => ([], none)
  | limit + 1, some id =>
      let (rest, onward) := history.follow limit (history.next? id)
      (id :: rest, onward)

theorem contains_of_mem_examined_among (history : History) (unseen : Unseen)
    (current : Option FailureId) :
    ∀ id ∈ history.examinedAmong unseen current, unseen.contains id = true := by
  fun_induction history.examinedAmong unseen current with
  | case1 => simp
  | case2 unseen id marked _ => simpa using marked
  | case3 unseen id marked _ ih =>
      intro other member
      rcases List.mem_cons.mp member with rfl | later
      · exact marked
      · exact ((unseen.contains_strike id other).mp (ih other later)).2
  | case4 => simp

theorem examined_among_nodup (history : History) (unseen : Unseen)
    (current : Option FailureId) : (history.examinedAmong unseen current).Nodup := by
  fun_induction history.examinedAmong unseen current with
  | case1 => simp
  | case2 => simp
  | case3 unseen id marked _ ih =>
      refine List.nodup_cons.mpr ⟨?_, ih⟩
      intro again
      have kept := history.contains_of_mem_examined_among _ _ id again
      exact ((unseen.contains_strike id id).mp kept).1 rfl
  | case4 => simp

end ObjectStore.History
