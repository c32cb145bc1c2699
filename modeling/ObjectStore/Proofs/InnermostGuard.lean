import ObjectStore.Proofs.Guarding
import ObjectStore.Proofs.Refusal

/-!
# Guards around guards

What one guard lets out no other guard takes hold of: the block has completed, or it was left by a
failure that is none of the client's, as are the storage failure that a guard raises and the reason
why it could not. Only what a path raises itself may be a failure of the client. So of guards that
stand around each other the innermost alone acts, and a failure is converted and logged at most
once, under the operation and the path that are closest to it.
-/

namespace ObjectStore

set_option autoImplicit false

/-- A new failure that is none of the client's settles the block that it leaves. -/
theorem LeavesAnew.settled {before : Journal} {added : Occurrence} {after : BlockRun}
    (anew : LeavesAnew before added after) (foreign : added.failure.isFromClient = false) :
    after.Settled := by
  intro id raised
  rw [anew.ending] at raised
  cases raised
  change (after.journal.history.occurrence before.nextId).failure.isFromClient = false
  rw [anew.occurrence]
  exact foreign

def Path.RaisesForeign (path : Path) : Prop :=
  ∀ failure, path = .raising failure → failure.isFromClient = false

theorem Path.RaisesForeign.fault {path : Path} (raises : path.RaisesForeign) {history : History}
    {id : FailureId} {fault : ClassificationFault} (refuses : history.Refuses path id fault) :
    fault.failure.isFromClient = false := by
  rcases refuses.plain_or_own with ⟨foreign, _⟩ | own
  · exact foreign
  · exact raises fault.failure own

/-- What one guard makes of a block. It leaves the block alone, or it has converted the failure of
the client that left the block, or given the reason why there is nothing to convert it into. -/
inductive GuardsOnce (layer : GuardLayer) (before after : BlockRun) : Prop where
  | untouched (settled : before.Settled) (same : after = before)
  | converted (id : FailureId) (issued : Classification) (raised : before.ending = .raised id)
      (reported : (before.journal.failure id).isFromClient = true)
      (error : before.journal.history.classify layer.operation layer.path id = .ok issued.error)
      (leaves : LeavesClassified layer.operation before id issued after)
      (number : after.journal.issued = before.journal.issued + 1)
  | unconverted (id : FailureId) (fault : ClassificationFault) (raised : before.ending = .raised id)
      (reported : (before.journal.failure id).isFromClient = true)
      (refused : before.journal.history.classify layer.operation layer.path id = .error fault)
      (leaves : LeavesFaulty before id fault after)

theorem guard_block_issued (layer : GuardLayer) (run : BlockRun) {id : FailureId}
    {classified : Journal} {issued : Classification} (raised : run.ending = .raised id)
    (reported : (run.journal.failure id).isFromClient = true)
    (made : run.journal.classify layer.operation layer.path id = .ok (classified, issued)) :
    (guardBlock layer.operation layer.path run).journal.issued = run.journal.issued + 1 := by
  obtain ⟨error, _, handedOut⟩ :=
    (run.journal.classify_eq_ok_iff layer.operation layer.path id _).mp made
  cases handedOut
  simp only [guardBlock, raised, reported, made, if_true]
  rfl

theorem guard_block_guards_once (layer : GuardLayer) (run : BlockRun) :
    GuardsOnce layer run (guardBlock layer.operation layer.path run) := by
  cases ended : run.ending with
  | completed =>
      exact .untouched (run.settled_of_completed ended)
        (guard_block_completed layer.operation layer.path run ended)
  | raised id =>
      cases reported : (run.journal.failure id).isFromClient with
      | false =>
          exact .untouched (run.settled_of_raised ended reported)
            (guard_block_passes layer.operation layer.path run id ended reported)
      | true =>
          cases made : run.journal.history.classify layer.operation layer.path id with
          | ok error =>
              have handedOut : run.journal.classify layer.operation layer.path id =
                  .ok (run.journal.issue error) :=
                (run.journal.classify_eq_ok_iff layer.operation layer.path id _).mpr
                  ⟨error, made, rfl⟩
              exact .converted id ⟨run.journal.issued, error⟩ ended reported made
                (guard_block_classified layer.operation layer.path run id _ _ ended reported
                  handedOut)
                (guard_block_issued layer run ended reported handedOut)
          | error fault =>
              refine .unconverted id fault ended reported made ?_
              apply guard_block_faulty layer.operation layer.path run id fault ended reported
              rw [Journal.classify, made]
              rfl

theorem GuardsOnce.settled {layer : GuardLayer} {before after : BlockRun}
    (once : GuardsOnce layer before after) (raises : layer.path.RaisesForeign) : after.Settled := by
  cases once with
  | untouched settled same => exact same ▸ settled
  | converted id issued _ _ _ leaves =>
      obtain ⟨failure, anew, carries, _⟩ := leaves.anew
      exact anew.settled carries.foreign
  | unconverted id fault _ _ refused leaves =>
      have refuses := (before.journal.history.classify_eq_error_iff _ _ id fault).mp refused
      exact leaves.anew.settled (raises.fault refuses)

/-- One guard converts one failure at most, with one line in the log for it. -/
theorem GuardsOnce.at_most_once {layer : GuardLayer} {before after : BlockRun}
    (once : GuardsOnce layer before after) :
    (∃ lines, after.log = before.log ++ lines ∧ lines.length ≤ 1) ∧
    after.journal.issued ≤ before.journal.issued + 1 ∧
    after.journal.history.size ≤ before.journal.history.size + 1 := by
  cases once with
  | untouched _ same =>
      subst same
      exact ⟨⟨[], (List.append_nil _).symm, Nat.zero_le 1⟩, Nat.le_succ _, Nat.le_succ _⟩
  | converted id issued _ _ _ leaves number =>
      obtain ⟨failure, anew, _⟩ := leaves.anew
      refine ⟨⟨_, leaves.log, Nat.le_refl 1⟩, Nat.le_of_eq number, Nat.le_of_eq ?_⟩
      rw [anew.history, History.size_record]
  | unconverted id fault _ _ _ leaves =>
      refine ⟨⟨[], ?_, Nat.zero_le 1⟩, ?_, Nat.le_of_eq ?_⟩
      · rw [leaves.log, List.append_nil]
      · rw [leaves.issued]
        exact Nat.le_succ _
      · rw [leaves.anew.history, History.size_record]

theorem guard_nested_append (outer : List GuardLayer) (inner : GuardLayer) (run : BlockRun) :
    guardNested (outer ++ [inner]) run =
      guardNested outer (guardBlock inner.operation inner.path run) := by
  simp only [guardNested, List.foldr_append, List.foldr_cons, List.foldr_nil]

/-- Guards around each other act as the innermost of them. What leaves the outermost, the failures
recorded with their links, and the log are those that the innermost leaves on its own, whatever the
operations and paths of the others. At most one failure is converted, and it is logged once. -/
theorem nested_guards_act_as_innermost (outer : List GuardLayer) (inner : GuardLayer)
    (raises : inner.path.RaisesForeign) (run : BlockRun) :
    guardNested (outer ++ [inner]) run = guardBlock inner.operation inner.path run ∧
    GuardsOnce inner run (guardNested (outer ++ [inner]) run) ∧
    (∃ lines, (guardNested (outer ++ [inner]) run).log = run.log ++ lines ∧ lines.length ≤ 1) ∧
    (guardNested (outer ++ [inner]) run).journal.issued ≤ run.journal.issued + 1 ∧
    (guardNested (outer ++ [inner]) run).journal.history.size ≤
      run.journal.history.size + 1 := by
  have once := guard_block_guards_once inner run
  have collapsed : guardNested (outer ++ [inner]) run =
      guardBlock inner.operation inner.path run := by
    rw [guard_nested_append]
    exact (once.settled raises).guard_nested outer
  rw [collapsed]
  exact ⟨rfl, once, once.at_most_once⟩

/-- The path of the inner guard raises a failure of its own. The outer guard lets that pass, and its
own path, which would raise another one, is never asked. -/
theorem failure_of_inner_path_leaves :
    (Path.raising (.ofArguments "LookupError" [])).RaisesForeign ∧
      guardNested [⟨"getObject", .raising (.ofClient "NoRegionError" "no region")⟩,
          ⟨"headObject", .raising (.ofArguments "LookupError" [])⟩] missingObjectRun =
        guardBlock "headObject" (.raising (.ofArguments "LookupError" [])) missingObjectRun ∧
      LeavesFaulty missingObjectRun 0 (.raised (.ofArguments "LookupError" []))
        (guardBlock "headObject" (.raising (.ofArguments "LookupError" [])) missingObjectRun) := by
  have raises : (Path.raising (.ofArguments "LookupError" [])).RaisesForeign := by
    intro failure same
    cases same
    rfl
  obtain ⟨collapsed, once, _⟩ := nested_guards_act_as_innermost
    [⟨"getObject", .raising (.ofClient "NoRegionError" "no region")⟩]
    ⟨"headObject", .raising (.ofArguments "LookupError" [])⟩ raises missingObjectRun
  refine ⟨raises, collapsed, ?_⟩
  apply guard_block_faulty "headObject" _ missingObjectRun 0 _ rfl rfl
  rfl

end ObjectStore
