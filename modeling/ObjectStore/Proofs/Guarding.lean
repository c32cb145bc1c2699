import ObjectStore.Guard
import ObjectStore.Proofs.Reraising

/-!
# What leaves a guarded block

A guard takes hold of failures of the storage client and of nothing else. Such a failure is either
replaced by a new storage failure, with one line in the log, or, when it cannot be classified, by
the reason for that, with none. Whatever happens, the failures recorded before stay as they were.
-/

namespace ObjectStore

set_option autoImplicit false

def Failure.heldCause? (failure : Failure) : Option FailureId :=
  failure.stored.map StoredError.cause

def Failure.kind? (failure : Failure) : Option ErrorKind :=
  failure.stored?.map fun issued => issued.error.kind

def Failure.path? (failure : Failure) : Option (Option String) :=
  failure.stored?.map fun issued => issued.error.path

/-- A new failure leaves the block, known by its failure and its three links, and it is the only one
that was recorded. All that was recorded before keeps its place, its failure and its links. -/
structure LeavesAnew (before : Journal) (added : Occurrence) (after : BlockRun) : Prop where
  ending : after.ending = .raised before.nextId
  history : after.journal.history = before.history.record added
  occurrence : after.journal.history.occurrence before.nextId = added
  kept : before.history.Extends after.journal.history

theorem leaves_anew_of_record (journal : Journal) (added : Occurrence) (after : BlockRun)
    (ending : after.ending = .raised journal.nextId)
    (history : after.journal.history = journal.history.record added) :
    LeavesAnew journal added after := by
  refine ⟨ending, history, ?_, ?_⟩
  · rw [history, journal.history.occurrence_record]
    exact if_pos rfl
  · rw [history]
    exact journal.history.extends_record added

/-- A failure of the client that was classified leaves as a storage failure raised from it while it
was handled. -/
structure LeavesClassified (operation : String) (before : BlockRun) (id : FailureId)
    (issued : Classification) (after : BlockRun) : Prop where
  anew : ∃ failure,
    LeavesAnew before.journal
      { failure, cause := some id, context := some id, suppressContext := true } after ∧
    failure.Carries issued ∧ failure.className = "StorageError" ∧
    failure.kind? = some issued.error.kind ∧ failure.path? = some issued.error.path ∧
    failure.heldCause? = some id
  log : after.log = before.log ++ [{
    level := .debug
    source := .classification
    text := operation ++ " failed with " ++ issued.error.kind.value ++ ": " ++
      issued.error.message }]

/-- What is raised for a fault: by class and text where the library is at fault, and what the path
raised itself. -/
structure ClassificationFault.Raises (fault : ClassificationFault) (failure : Failure) : Prop where
  unshown : ∀ reason, fault = .text reason →
    failure.className = "ValueError" ∧ failure.text = .ok reason.message
  misgiven : ∀ holder found, fault = .notPathText holder found →
    failure.className = "TypeError" ∧
    failure.text =
      .ok s!"expected {holder}.__fspath__() to return str or bytes, not {found}"
  raised : ∀ own, fault = .raised own → failure = own
  plain : (∀ own, fault ≠ .raised own) →
    failure.isFromClient = false ∧ failure.isStorage = false

/-- When a failure of the client cannot be classified, the reason leaves in its place. It is raised
while that failure is handled, from no other one, and nothing is logged. -/
structure LeavesFaulty (before : BlockRun) (id : FailureId) (fault : ClassificationFault)
    (after : BlockRun) : Prop where
  anew : LeavesAnew before.journal
    { failure := fault.failure, cause := none, context := some id, suppressContext := false } after
  raises : fault.Raises fault.failure
  log : after.log = before.log
  issued : after.journal.issued = before.journal.issued

theorem guard_block_classified (operation : String) (path : Path) (run : BlockRun)
    (id : FailureId) (classified : Journal) (issued : Classification)
    (raised : run.ending = .raised id)
    (reported : (run.journal.failure id).isFromClient = true)
    (made : run.journal.classify operation path id = .ok (classified, issued)) :
    LeavesClassified operation run id issued (guardBlock operation path run) := by
  obtain ⟨same, cause⟩ := Journal.classify_keeps made
  have result : guardBlock operation path run = {
      journal := (classified.raise issued (some id)).1
      ending := .raised (classified.raise issued (some id)).2
      log := run.log ++ [classificationRecord operation issued.error] } := by
    simp only [guardBlock, raised, reported, made, if_true]
  rw [result]
  -- Handing the classified error out has recorded nothing, so the storage failure comes next.
  constructor
  · refine ⟨.ofClassification issued, ?_, carries_of_classification issued, rfl, rfl, rfl,
      congrArg some cause⟩
    apply leaves_anew_of_record
    · change BlockEnd.raised classified.history.size = .raised run.journal.history.size
      rw [same]
    · change classified.history.record _ = _
      rw [same, cause]
  · rfl

theorem fault_raises (fault : ClassificationFault) : fault.Raises fault.failure := by
  constructor
  · rintro reason rfl
    exact ⟨rfl, rfl⟩
  · rintro holder found rfl
    exact ⟨rfl, rfl⟩
  · rintro own rfl
    rfl
  · intro plain
    cases fault with
    | text reason => exact ⟨rfl, rfl⟩
    | notPathText holder found => exact ⟨rfl, rfl⟩
    | raised own => exact absurd rfl (plain own)

theorem guard_block_faulty (operation : String) (path : Path) (run : BlockRun) (id : FailureId)
    (fault : ClassificationFault) (raised : run.ending = .raised id)
    (reported : (run.journal.failure id).isFromClient = true)
    (refused : run.journal.classify operation path id = .error fault) :
    LeavesFaulty run id fault (guardBlock operation path run) := by
  have result : guardBlock operation path run = {
      run with
      journal := (run.journal.raiseFault fault id).1
      ending := .raised (run.journal.raiseFault fault id).2 } := by
    simp only [guardBlock, raised, reported, refused, if_true]
  rw [result]
  exact ⟨leaves_anew_of_record run.journal _ _ rfl rfl, fault_raises fault, rfl, rfl⟩

def BlockRun.Settled (run : BlockRun) : Prop :=
  ∀ id, run.ending = .raised id → (run.journal.failure id).isFromClient = false

theorem BlockRun.settled_of_completed (run : BlockRun) (completed : run.ending = .completed) :
    run.Settled := by
  intro id raised
  rw [completed] at raised
  cases raised

theorem BlockRun.settled_of_raised (run : BlockRun) {id : FailureId}
    (raised : run.ending = .raised id)
    (foreign : (run.journal.failure id).isFromClient = false) : run.Settled := by
  intro other ended
  rw [raised] at ended
  cases ended
  exact foreign

theorem BlockRun.Settled.guard_block {run : BlockRun} (settled : run.Settled) (operation : String)
    (path : Path) : guardBlock operation path run = run := by
  cases ended : run.ending with
  | completed => exact guard_block_completed operation path run ended
  | raised id => exact guard_block_passes operation path run id ended (settled id ended)

theorem BlockRun.Settled.guard_nested {run : BlockRun} (settled : run.Settled)
    (layers : List GuardLayer) : guardNested layers run = run := by
  induction layers with
  | nil => rfl
  | cons layer inner ih =>
      change guardBlock layer.operation layer.path (guardNested inner run) = run
      rw [ih]
      exact settled.guard_block layer.operation layer.path

theorem guard_nested_passes (layers : List GuardLayer) (run : BlockRun) (id : FailureId)
    (raised : run.ending = .raised id)
    (foreign : (run.journal.failure id).isFromClient = false) : guardNested layers run = run :=
  (run.settled_of_raised raised foreign).guard_nested layers

/-- A block that completes, or that is left by a failure of any other origin, ends as if it were not
guarded. A failure of the client leaves as the storage failure for it, or else as the reason why
there is none. -/
theorem guard_converts_client_failures_only (operation : String) (path : Path) (run : BlockRun) :
    (run.ending = .completed → guardBlock operation path run = run) ∧
    ∀ id, run.ending = .raised id →
      ((run.journal.failure id).isFromClient = false → guardBlock operation path run = run) ∧
      ((run.journal.failure id).isFromClient = true →
        (∀ classified issued,
          run.journal.classify operation path id = .ok (classified, issued) →
            LeavesClassified operation run id issued (guardBlock operation path run)) ∧
        ∀ fault, run.journal.classify operation path id = .error fault →
          LeavesFaulty run id fault (guardBlock operation path run)) := by
  constructor
  · exact guard_block_completed operation path run
  · intro id raised
    refine ⟨guard_block_passes operation path run id raised, ?_⟩
    intro reported
    constructor
    · intro classified issued made
      exact guard_block_classified operation path run id classified issued raised reported made
    · intro fault refused
      exact guard_block_faulty operation path run id fault raised reported refused

/-- An object was missing while a keystroke was handled, and one line was logged before. -/
def missingObjectRun : BlockRun where
  journal := {
    history := ⟨#[
      { failure :=
          .ofResponse "ClientError" ⟨none, some [("HTTPStatusCode", .text "404")]⟩ "missing"
        cause := none
        context := some 1
        suppressContext := false },
      .fresh (.ofArguments "KeyboardInterrupt" [] [.keyboardInterrupt])]⟩
    issued := 0 }
  ending := .raised 0
  log := [⟨.warning, .upload, "part size adjusted"⟩]

/-- The missing object leaves classified, or, where the path has no text, the reason for that, which
may be a failure of the path's own; the keystroke passes, and so does the end of the block. -/
theorem missing_object_leaves_classified :
    (∃ issued, issued.error.kind = .notFound ∧
      LeavesClassified "headObject" missingObjectRun 0 issued
        (guardBlock "headObject" (.text "data/key") missingObjectRun)) ∧
    LeavesFaulty missingObjectRun 0 (.notPathText "Label" "int")
      (guardBlock "headObject" (.object "Label" (.integer 3)) missingObjectRun) ∧
    LeavesFaulty missingObjectRun 0 (.raised (.ofArguments "LookupError" [.text "closed"]))
      (guardBlock "headObject" (.raising (.ofArguments "LookupError" [.text "closed"]))
        missingObjectRun) ∧
    (guardBlock "headObject" .absent { missingObjectRun with ending := .raised 1 }).ending =
      .raised 1 ∧
    (guardBlock "headObject" (.object "Label" .null)
      { missingObjectRun with ending := .completed }).ending = .completed := by
  obtain ⟨classified, issued, made, kind⟩ : ∃ classified issued,
      missingObjectRun.journal.classify "headObject" (.text "data/key") 0 =
        .ok (classified, issued) ∧ issued.error.kind = .notFound := ⟨_, _, rfl, rfl⟩
  obtain ⟨_, converts⟩ :=
    guard_converts_client_failures_only "headObject" (.text "data/key") missingObjectRun
  obtain ⟨_, refuses⟩ :=
    guard_converts_client_failures_only "headObject" (.object "Label" (.integer 3))
      missingObjectRun
  obtain ⟨_, raises⟩ := guard_converts_client_failures_only "headObject"
    (.raising (.ofArguments "LookupError" [.text "closed"])) missingObjectRun
  obtain ⟨_, passes⟩ := guard_converts_client_failures_only "headObject" .absent
    { missingObjectRun with ending := .raised 1 }
  obtain ⟨completes, _⟩ := guard_converts_client_failures_only "headObject" (.object "Label" .null)
    { missingObjectRun with ending := .completed }
  refine ⟨⟨issued, kind, ?_⟩, ?_, ?_, ?_, ?_⟩
  · exact ((converts 0 rfl).2 rfl).1 classified issued made
  · exact ((refuses 0 rfl).2 rfl).2 _ rfl
  · exact ((raises 0 rfl).2 rfl).2 _ rfl
  · rw [(passes 1 rfl).1 rfl]
  · rw [completes rfl]

end ObjectStore
