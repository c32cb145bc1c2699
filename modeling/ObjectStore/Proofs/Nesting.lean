import ObjectStore.History.Raise
import ObjectStore.Proofs.HandingOn
import ObjectStore.Proofs.Runs

/-!
# No classified error inside another

Guards let storage failures pass, and extraction opens them wherever it finds one, so no classified
error is ever made of a storage failure. Every storage failure in turn is raised from the cause of
the error that it carries. Both hold however the failures around the library are linked, and after
any number of calls.
-/

namespace ObjectStore

set_option autoImplicit false

/-- What other code may do when storage failures come from the library alone. Other failures are
made, and any link may change, but a storage failure keeps the cause that it was raised from. -/
structure Journal.Relinks (earlier later : Journal) : Prop where
  remembered : earlier.Remembers later
  closed : later.history.Closed
  unclassified : ∀ id, earlier.history.size ≤ id → (later.failure id).isStorage = false
  raisedFrom : ∀ id, (earlier.failure id).isStorage = true →
    (later.history.occurrence id).cause = (earlier.history.occurrence id).cause

theorem failure_adjust {history : History} {id : FailureId} (recorded : id < history.size)
    (change : Occurrence → Occurrence)
    (same : (change (history.occurrence id)).failure = history.failure id) (other : FailureId) :
    (history.adjust id change).failure other = history.failure other := by
  rw [History.failure, history.occurrence_adjust id other change recorded]
  split
  · rename_i found
    rw [found]
    exact same
  · rfl

/-- Whatever is done to the links of one failure is such a step. -/
theorem relinks_adjust {journal : Journal} (closed : journal.history.Closed) {id : FailureId}
    (recorded : id < journal.history.size) (change : Occurrence → Occurrence)
    (same : (change (journal.history.occurrence id)).failure = journal.failure id)
    (linked : ∀ other, (change (journal.history.occurrence id)).cause = some other ∨
      (change (journal.history.occurrence id)).context = some other → other < journal.history.size)
    (raisedFrom : (journal.failure id).isStorage = true →
      (change (journal.history.occurrence id)).cause = (journal.history.occurrence id).cause) :
    journal.Relinks { journal with history := journal.history.adjust id change } := by
  have failures := failure_adjust recorded change same
  have reads : ∀ other, (journal.history.adjust id change).occurrence other =
      if other = id then change (journal.history.occurrence id)
      else journal.history.occurrence other := by
    intro other
    exact journal.history.occurrence_adjust id other change recorded
  have size : (journal.history.adjust id change).size = journal.history.size :=
    journal.history.size_adjust id change
  refine ⟨⟨Nat.le_of_eq size.symm, fun other _ => failures other⟩, ?_, ?_, ?_⟩
  · intro other otherRecorded target link
    rw [size] at otherRecorded ⊢
    rw [reads other] at link
    split at link
    · exact linked target link
    · exact closed other otherRecorded target link
  · intro other beyond
    change ((journal.history.adjust id change).failure other).isStorage = false
    rw [failures other, History.failure, journal.history.occurrence_outside other beyond]
    rfl
  · intro other storage
    change ((journal.history.adjust id change).occurrence other).cause = _
    rw [reads other]
    split
    · rename_i found
      rw [found] at storage ⊢
      exact raisedFrom storage
    · rfl

/-- The error points at a storage failure only where the client reports that one too. -/
def Unnested (history : History) (error : ClassifiedError) : Prop :=
  (history.failure error.cause).isStorage = true →
    (history.failure error.cause).isFromClient = true

/-- Nothing is classified outside guards and extraction, where it might be a storage failure. -/
theorem unnested_of_all : FactOfAll False Unnested := by
  constructor
  case grow =>
    intro earlier later error _ grown recorded unnested
    rw [Unnested, grown.failure error.cause recorded]
    exact unnested
  case classified =>
    intro history operation path id error allowed made
    obtain ⟨cause, _⟩ := history.classify_cause operation path id error made
    rw [Unnested, cause]
    intro _
    rcases allowed with impossible | client
    · exact impossible.elim
    · exact client
  case cancelled =>
    intro history operation label storage
    change ((history.record _).failure history.size).isStorage = true at storage
    rw [history.failure_record_last] at storage
    cases storage
  case generic =>
    intro _ _ _ _ _ _ unclassified storage
    exact absurd storage (Bool.eq_false_iff.mp unclassified)

theorem Journal.Relinks.keeps {produced : List Classification} {earlier later : Journal}
    (relinked : earlier.Relinks later) (keeps : RunKeeps Unnested produced earlier.history) :
    RunKeeps Unnested produced later.history := by
  apply keeps.outlast relinked.remembered.size_le relinked.remembered.failures relinked.closed
  · intro error recorded unnested
    change (later.failure error.cause).isStorage = true →
      (later.failure error.cause).isFromClient = true
    rw [relinked.remembered.failures error.cause recorded]
    exact unnested
  · intro id beyond issued held
    have unstored := (stored_none_iff _).mpr (relinked.unclassified id beyond)
    rw [Journal.failure, held] at unstored
    cases unstored

/-- A storage failure is none of the client's. It was raised from the cause of its classified error,
and holds that cause for itself as well. Of other failures nothing is said. -/
def Occurrence.RaisedFromCause (occurrence : Occurrence) : Prop :=
  ∀ issued, occurrence.failure.stored? = some issued →
    occurrence.failure.isFromClient = false ∧
      occurrence.failure.heldCause? = some issued.error.cause ∧
      occurrence.cause = some issued.error.cause

theorem raised_from_cause_of_other {occurrence : Occurrence}
    (unclassified : occurrence.failure.isStorage = false) : occurrence.RaisedFromCause := by
  intro issued held
  rw [(stored_none_iff _).mpr unclassified] at held
  cases held

/-- A guard records one failure at most, and raises it properly if it is a storage failure. -/
theorem guard_block_records (operation : String) {path : Path} (raises : path.RaisesUnclassified)
    (run : BlockRun) :
    (guardBlock operation path run).journal.history = run.journal.history ∨
      ∃ added : Occurrence, added.RaisedFromCause ∧
        (guardBlock operation path run).journal.history = run.journal.history.record added := by
  cases ending : run.ending with
  | completed =>
      rw [guard_block_completed operation path run ending]
      exact Or.inl rfl
  | raised id =>
      cases reported : (run.journal.failure id).isFromClient with
      | false =>
          rw [guard_block_passes operation path run id ending reported]
          exact Or.inl rfl
      | true =>
          cases made : run.journal.classify operation path id with
          | error fault =>
              have leaves := guard_block_faulty operation path run id fault ending reported made
              have refuses := (run.journal.classify_eq_error_iff operation path id fault).mp made
              exact Or.inr
                ⟨_, raised_from_cause_of_other (raises.fault refuses), leaves.anew.history⟩
          | ok result =>
              obtain ⟨_, cause⟩ := Journal.classify_keeps made
              obtain ⟨⟨failure, anew, carries, _, _, _, heldCause⟩, _⟩ :=
                guard_block_classified operation path run id _ _ ending reported made
              refine Or.inr ⟨_, ?_, anew.history⟩
              intro issued held
              obtain rfl : result.2 = issued := Option.some.inj (carries.held.symm.trans held)
              rw [cause]
              exact ⟨carries.foreign, heldCause, rfl⟩

theorem LibraryCall.records {direct : Prop} {produced given : List Classification}
    {journal later : Journal} (call : LibraryCall direct produced journal given later) :
    later.history = journal.history ∨
      ∃ added : Occurrence, added.RaisedFromCause ∧
        later.history = journal.history.record added := by
  cases call with
  | classified _ operation path id _ made => exact Or.inl (Journal.classify_keeps made).1
  | extracted operation path source _ made =>
      obtain ⟨_, _, _, _, extracts⟩ :=
        (journal.extract_eq_ok_iff operation path source _).mp made
      cases extracts with
      | cancelled => exact Or.inr ⟨_, raised_from_cause_of_other rfl, rfl⟩
      | classified _ _ _ classified => exact Or.inl (Journal.classify_keeps classified).1
      | stored => exact Or.inl rfl
      | generic => exact Or.inl rfl
  | raised issued _ handled _ =>
      refine Or.inr ⟨_, ?_, rfl⟩
      intro other held
      obtain rfl : issued = other := Option.some.inj held
      exact ⟨rfl, rfl, rfl⟩
  | guarded operation path raises ending log _ =>
      exact guard_block_records operation raises ⟨journal, ending, log⟩

theorem course_raises_from_cause {direct : Prop} {start finish : Journal}
    {produced : List Classification} (unclassified : ∀ id, (start.failure id).isStorage = false)
    (course : Course (fun _ => Journal.Relinks) direct start produced finish) (id : FailureId) :
    (finish.history.occurrence id).RaisedFromCause := by
  induction course with
  | started => exact raised_from_cause_of_other (unclassified id)
  | @meanwhile _ journal later _ relinked ih =>
      by_cases recorded : id < journal.history.size
      · have failure : (later.history.occurrence id).failure =
            (journal.history.occurrence id).failure := relinked.remembered.failures id recorded
        intro issued held
        rw [failure] at held ⊢
        rw [relinked.raisedFrom id ((stored_iff_is_storage _).mpr ⟨issued, held⟩)]
        exact ih issued held
      · exact raised_from_cause_of_other (relinked.unclassified id (Nat.le_of_not_lt recorded))
  | @called _ _ journal later _ call ih =>
      rcases call.records with history | ⟨added, proper, history⟩
      · rw [history]
        exact ih
      · rw [history, journal.history.occurrence_record]
        split
        · exact proper
        · exact ih

/-- However long it goes on, no classified error points at a storage failure, neither one that was
given nor one inside a storage failure. Every storage failure is raised from what its error points
at, and holds the same. -/
theorem classified_errors_are_never_nested (start finish : Journal)
    (produced : List Classification) (closed : start.history.Closed)
    (unclassified : ∀ id, (start.failure id).isStorage = false)
    (course : Course (fun _ => Journal.Relinks) False start produced finish) :
    (∀ issued ∈ produced, issued.error.cause < finish.history.size ∧
      (finish.failure issued.error.cause).isStorage = false) ∧
    ∀ id issued, (finish.failure id).stored? = some issued →
      issued ∈ produced ∧ (finish.failure id).heldCause? = some issued.error.cause ∧
        (finish.history.occurrence id).cause = some issued.error.cause := by
  have keeps := course_keeps unnested_of_all Journal.Relinks.keeps closed unclassified course
  have raised := course_raises_from_cause unclassified course
  constructor
  · intro issued member
    refine ⟨keeps.recorded issued member, ?_⟩
    -- A storage failure there would be one that the client reports too, and there is none.
    apply Bool.eq_false_iff.mpr
    intro storage
    obtain ⟨other, held⟩ := (stored_iff_is_storage _).mp storage
    obtain ⟨foreign, _⟩ := raised issued.error.cause other held
    exact Bool.eq_false_iff.mp foreign (keeps.facts issued member storage)
  · intro id issued held
    obtain ⟨_, heldCause, linked⟩ := raised id issued held
    exact ⟨keeps.carried id issued held, heldCause, linked⟩

def missingBesideJournal : Journal where
  history := (History.empty.record (.fresh (.ofResponse "NoSuchKey"
    ⟨none, some [("HTTPStatusCode", .integer 404)]⟩
    "An error occurred (Unknown) when calling the GetObject operation: Unknown"))).record
      (.fresh (.ofArguments "RuntimeError" [.text "sync"]))
  issued := 0

theorem missing_beside_journal_closed : missingBesideJournal.history.Closed :=
  History.closed_record_fresh (History.closed_record_fresh History.closed_empty _) _

theorem missing_beside_journal_unclassified (id : FailureId) :
    (missingBesideJournal.failure id).isStorage = false :=
  History.unclassified_record (History.unclassified_record History.unclassified_empty rfl) rfl id

def missingRaisedJournal : Journal :=
  (guardBlock "getObject" (.text "data/key") ⟨missingBesideJournal, .raised 0, []⟩).journal

/-- The failure of the program is raised from that storage failure, and a future fails with it. -/
def missingFuture : Journal × FutureState :=
  ({ missingRaisedJournal with history := missingRaisedJournal.history.setCause 1 (some 2) },
    .failed 1)

/-- What comes out of the future points at the failure of the program, although that one was raised
from a storage failure, and so does the storage failure that is raised then. -/
theorem failure_raised_from_missing_object_is_not_nested :
    ∃ finish generic missing, Course (fun _ => Journal.Relinks) False missingBesideJournal
        [generic, missing] finish ∧
      generic.error.cause = 1 ∧ (finish.history.occurrence 1).cause = some 2 ∧
      (finish.failure 1).isStorage = false ∧ (finish.failure 2).isStorage = true ∧
      (finish.failure 3).stored? = some generic ∧
      (finish.history.occurrence 3).cause = some 1 := by
  have guarded : Course (fun _ => Journal.Relinks) False missingBesideJournal _
      missingRaisedJournal :=
    .called .started (.guarded "getObject" (.text "data/key") (text_raises_unclassified _)
      (.raised 0) [] (Nat.succ_pos 1))
  have raisedClosed := (course_keeps unnested_of_all Journal.Relinks.keeps
    missing_beside_journal_closed missing_beside_journal_unclassified guarded).closed
  have relinked : missingRaisedJournal.Relinks missingFuture.1 := by
    apply relinks_adjust raisedClosed (by decide) _ rfl
    · rintro other (fromCause | fromContext)
      · exact Option.some.inj fromCause ▸ (by decide)
      · cases fromContext
    · intro storage
      cases storage
  have recorded : 1 < missingFuture.1.history.size := by decide
  have extracted := (guarded.meanwhile relinked).called
    (.extracted "copyObject" .absent (.future .eventLoop missingFuture.2) recorded rfl)
  have course := extracted.called
    (.raised _ List.mem_cons_self (some 1) (fun _ same => Option.some.inj same ▸ (by decide)))
  obtain ⟨unnested, raised⟩ := classified_errors_are_never_nested missingBesideJournal _ _
    missing_beside_journal_closed missing_beside_journal_unclassified course
  refine ⟨_, _, _, course, rfl, rfl, ?_, rfl, rfl, ?_⟩
  · exact (unnested _ List.mem_cons_self).2
  · exact (raised 3 _ rfl).2.2

end ObjectStore
