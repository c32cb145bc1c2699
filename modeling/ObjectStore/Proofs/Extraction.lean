import ObjectStore.Extraction
import ObjectStore.Proofs.Classification
import ObjectStore.Proofs.Growth

/-!
# What is extracted from a source

First which failure a source stands for, then what becomes of that failure. Nothing else about the
source matters: two sources that stand for one failure give the same classified error. The cause of
a wrapper is tested for its truth and not for being there, so a cause that counts as false is passed
over, although the chain of causes leads to it.
-/

namespace ObjectStore

set_option autoImplicit false

def Failure.stored? (failure : Failure) : Option Classification :=
  failure.stored.map StoredError.classification

theorem stored_iff_is_storage (failure : Failure) :
    failure.isStorage = true ↔ ∃ issued, failure.stored? = some issued := by
  unfold Failure.isStorage Failure.stored?
  cases failure.stored <;> simp

theorem stored_none_iff (failure : Failure) :
    failure.stored? = none ↔ failure.isStorage = false := by
  unfold Failure.isStorage Failure.stored?
  cases failure.stored <;> simp

/-- A storage failure as the library makes it: it carries the classified error, says what that says,
and is nothing that the storage client reports. -/
structure Failure.Carries (failure : Failure) (issued : Classification) : Prop where
  held : failure.stored? = some issued
  foreign : failure.isFromClient = false
  told : failure.text = .ok issued.error.message

theorem carries_of_classification (issued : Classification) :
    (Failure.ofClassification issued).Carries issued :=
  ⟨rfl, rfl, rfl⟩

theorem foreign_iff (failure : Failure) :
    failure.isFromClient = false ↔ failure.isService = false ∧ failure.isClient = false := by
  rw [Failure.isFromClient, Bool.or_eq_false_iff]

theorem true_cause_iff (history : History) (id cause : FailureId) :
    history.trueCause? id = some cause ↔
      (history.occurrence id).cause = some cause ∧ (history.failure cause).truth = true :=
  Option.filter_eq_some_iff

theorem true_cause_none_iff (history : History) (id : FailureId) :
    history.trueCause? id = none ↔
      ∀ cause, (history.occurrence id).cause = some cause →
        (history.failure cause).truth = false := by
  simp only [History.trueCause?, Option.filter_eq_none_iff, Bool.not_eq_true]

/-- The failure that a source stands for, or none for a cancelled future. Failures of the storage
client and storage failures stand for themselves even when they were raised from another failure;
of any other failure that was raised from one, that one is taken, unless it counts as false, and
looked through no further. -/
inductive History.Unwraps (history : History) : Source → Option FailureId → Prop where
  | cancelled (owner : FutureOwner) (notified : Bool) :
      Unwraps history (.future owner (.cancelled notified)) none
  | failed (owner : FutureOwner) (id : FailureId) :
      Unwraps history (.future owner (.failed id)) (some id)
  | itself (id : FailureId)
      (kept : (history.failure id).isService = true ∨ (history.failure id).isClient = true ∨
        (history.failure id).isStorage = true) :
      Unwraps history (.failure id) (some id)
  | wrapped (id cause : FailureId)
      (foreign : (history.failure id).isFromClient = false)
      (unclassified : (history.failure id).isStorage = false)
      (linked : (history.occurrence id).cause = some cause)
      (counts : (history.failure cause).truth = true) :
      Unwraps history (.failure id) (some cause)
  | alone (id : FailureId)
      (foreign : (history.failure id).isFromClient = false)
      (unclassified : (history.failure id).isStorage = false)
      (unlinked : ∀ cause, (history.occurrence id).cause = some cause →
        (history.failure cause).truth = false) :
      Unwraps history (.failure id) (some id)

def Source.HoldsFailure : Source → Prop
  | .future _ (.cancelled _) => True
  | .future _ (.failed _) => True
  | .failure _ => True
  | _ => False

theorem is_opaque_wrapper_iff (failure : Failure) :
    isOpaqueWrapper failure = true ↔
      failure.isService = true ∨ failure.isClient = true ∨ failure.isStorage = true := by
  simp only [isOpaqueWrapper, Failure.isFromClient, Bool.or_eq_true, or_assoc]

theorem not_opaque_wrapper_iff (failure : Failure) :
    isOpaqueWrapper failure = false ↔
      failure.isFromClient = false ∧ failure.isStorage = false := by
  simp only [isOpaqueWrapper, Bool.or_eq_false_iff]

theorem History.underlying_of_kept (history : History) {id : FailureId}
    (kept : isOpaqueWrapper (history.failure id) = true) :
    history.underlying (.failure id) = .ok (some id) := by
  rw [underlying, if_pos kept]

theorem History.underlying_of_wrapper (history : History) {id : FailureId}
    (looked : isOpaqueWrapper (history.failure id) = false) :
    history.underlying (.failure id) = .ok (some ((history.trueCause? id).getD id)) := by
  rw [underlying, if_neg (Bool.not_eq_true _ ▸ looked)]

theorem History.unwraps_wrapper (history : History) {id : FailureId}
    (looked : isOpaqueWrapper (history.failure id) = false) :
    history.Unwraps (.failure id) (some ((history.trueCause? id).getD id)) := by
  obtain ⟨foreign, unclassified⟩ := (not_opaque_wrapper_iff _).mp looked
  cases found : history.trueCause? id with
  | some cause =>
      obtain ⟨linked, counts⟩ := (true_cause_iff history id cause).mp found
      exact .wrapped id cause foreign unclassified linked counts
  | none => exact .alone id foreign unclassified ((true_cause_none_iff history id).mp found)

theorem History.unwraps_of_underlying {history : History} {source : Source}
    {found : Option FailureId} (read : history.underlying source = .ok found) :
    history.Unwraps source found := by
  cases source with
  | future owner state =>
      cases state with
      | cancelled notified =>
          cases read
          exact .cancelled owner notified
      | failed id =>
          cases read
          exact .failed owner id
      | pending => cases read
      | running => cases read
      | finished => cases read
  | failure id =>
      cases kept : isOpaqueWrapper (history.failure id) with
      | true =>
          rw [history.underlying_of_kept kept] at read
          rw [← Except.ok.inj read]
          exact .itself id ((is_opaque_wrapper_iff _).mp kept)
      | false =>
          rw [history.underlying_of_wrapper kept] at read
          rw [← Except.ok.inj read]
          exact history.unwraps_wrapper kept

theorem History.Unwraps.underlying {history : History} {source : Source}
    {found : Option FailureId} (unwraps : history.Unwraps source found) :
    history.underlying source = .ok found := by
  cases unwraps with
  | cancelled => rfl
  | failed => rfl
  | itself id kept => exact history.underlying_of_kept ((is_opaque_wrapper_iff _).mpr kept)
  | wrapped id cause foreign unclassified linked counts =>
      rw [history.underlying_of_wrapper ((not_opaque_wrapper_iff _).mpr ⟨foreign, unclassified⟩),
        (true_cause_iff history id cause).mpr ⟨linked, counts⟩]
      rfl
  | alone id foreign unclassified unlinked =>
      rw [history.underlying_of_wrapper ((not_opaque_wrapper_iff _).mpr ⟨foreign, unclassified⟩),
        (true_cause_none_iff history id).mpr unlinked]
      rfl

theorem History.underlying_iff_unwraps (history : History) (source : Source)
    (found : Option FailureId) :
    history.underlying source = .ok found ↔ history.Unwraps source found :=
  ⟨unwraps_of_underlying, Unwraps.underlying⟩

theorem History.unwraps_unique (history : History) (source : Source)
    (left right : Option FailureId) (first : history.Unwraps source left)
    (second : history.Unwraps source right) : left = right := by
  have read := first.underlying
  rw [second.underlying] at read
  exact (Except.ok.inj read).symm

theorem History.holds_failure_iff_unwraps (history : History) (source : Source) :
    source.HoldsFailure ↔ ∃ found, history.Unwraps source found := by
  simp only [← history.underlying_iff_unwraps source]
  cases source with
  | future owner state =>
      cases state <;>
        simp [Source.HoldsFailure, History.underlying, FutureState.failure?]
  | failure id =>
      have read : ∃ found, history.underlying (.failure id) = .ok found := by
        cases kept : isOpaqueWrapper (history.failure id) <;>
          simp [History.underlying, kept]
      simp only [read, Source.HoldsFailure]

inductive Journal.Extracts (journal : Journal) (operation : String) (path : Path)
    (label : Option String) : Option FailureId → Journal × Classification → Prop where
  | cancelled :
      Extracts journal operation path label none
        ((journal.record (.fresh (cancellation operation))).issue
          (cancelledError operation label journal.nextId))
  | classified (id : FailureId) (result : Journal × Classification)
      (client : (journal.failure id).isFromClient = true)
      (made : journal.classify operation path id = .ok result) :
      Extracts journal operation path label (some id) result
  | stored (id : FailureId) (issued : Classification)
      (foreign : (journal.failure id).isFromClient = false)
      (found : (journal.failure id).stored? = some issued) :
      Extracts journal operation path label (some id) (journal, issued)
  | generic (id : FailureId) (failureText : String)
      (foreign : (journal.failure id).isFromClient = false)
      (unclassified : (journal.failure id).isStorage = false)
      (shown : (journal.failure id).text = .ok failureText) :
      Extracts journal operation path label (some id)
        (journal.issue (genericError operation label id
          (genericMessage operation (journal.failure id) failureText)))

namespace Journal

theorem failure_recorded (journal : Journal) (added : Occurrence) :
    (journal.record added).failure journal.nextId = added.failure := by
  rw [journal.failure_record added journal.nextId, if_pos rfl]

section Unwrapped

variable (journal : Journal) (operation : String) (path : Path) (source : Source)
  (label : Option String) (labelled : path.label? = .ok label)

include labelled

theorem extract_cancelled (unwraps : journal.history.Unwraps source none) :
    journal.extract operation path source =
      .ok ((journal.record (.fresh (cancellation operation))).issue
        (cancelledError operation label journal.nextId)) := by
  rw [extract, labelled, unwraps.underlying]
  rfl

variable (id : FailureId) (unwraps : journal.history.Unwraps source (some id))

include unwraps

theorem extract_client (client : (journal.failure id).isFromClient = true) :
    journal.extract operation path source =
      (journal.classify operation path id).mapError .classification := by
  rw [extract, labelled, unwraps.underlying]
  exact if_pos client

theorem extract_stored (issued : Classification)
    (foreign : (journal.failure id).isFromClient = false)
    (held : (journal.failure id).stored? = some issued) :
    journal.extract operation path source = .ok (journal, issued) := by
  rw [extract, labelled, unwraps.underlying]
  obtain ⟨stored, found, rfl⟩ := Option.map_eq_some_iff.mp held
  change (if _ then _ else _) = _
  rw [if_neg (Bool.not_eq_true _ ▸ foreign), found]
  rfl

theorem extract_generic (foreign : (journal.failure id).isFromClient = false)
    (unclassified : (journal.failure id).isStorage = false) :
    journal.extract operation path source =
      ((journal.failure id).text.mapError (fun fault => .classification (.text fault)) >>=
        fun failureText => .ok (journal.issue (genericError operation label id
          (genericMessage operation (journal.failure id) failureText)))) := by
  rw [extract, labelled, unwraps.underlying]
  have absent : (journal.failure id).stored = none :=
    Option.isNone_iff_eq_none.mp (Option.isSome_eq_false_iff.mp unclassified)
  change (if _ then _ else _) = _
  rw [if_neg (Bool.not_eq_true _ ▸ foreign), absent]
  rfl

end Unwrapped

theorem Extracts.of_extract {journal : Journal} {operation : String} {path : Path}
    {source : Source} {label : Option String} (labelled : path.label? = .ok label)
    {found : Option FailureId} (unwraps : journal.history.Unwraps source found)
    {result : Journal × Classification}
    (made : journal.extract operation path source = .ok result) :
    journal.Extracts operation path label found result := by
  cases found with
  | none =>
      rw [journal.extract_cancelled operation path source label labelled unwraps] at made
      rw [← Except.ok.inj made]
      exact .cancelled
  | some id =>
      cases client : (journal.failure id).isFromClient with
      | true =>
          rw [journal.extract_client operation path source label labelled id unwraps client,
            except_map_error_eq_ok] at made
          exact .classified id result client made
      | false =>
          cases stored : (journal.failure id).isStorage with
          | true =>
              obtain ⟨issued, held⟩ := (stored_iff_is_storage _).mp stored
              rw [journal.extract_stored operation path source label labelled id unwraps issued
                client held] at made
              rw [← Except.ok.inj made]
              exact .stored id issued client held
          | false =>
              rw [journal.extract_generic operation path source label labelled id unwraps client
                stored] at made
              obtain ⟨failureText, shown, issued⟩ := (except_bind_eq_ok _ _ _).mp made
              rw [except_map_error_eq_ok] at shown
              rw [← Except.ok.inj issued]
              exact .generic id failureText client stored shown

theorem Extracts.extract {journal : Journal} {operation : String} {path : Path}
    {source : Source} {label : Option String} (labelled : path.label? = .ok label)
    {found : Option FailureId} (unwraps : journal.history.Unwraps source found)
    {result : Journal × Classification}
    (extracts : journal.Extracts operation path label found result) :
    journal.extract operation path source = .ok result := by
  cases extracts with
  | cancelled => exact journal.extract_cancelled operation path source label labelled unwraps
  | classified id result client made =>
      rw [journal.extract_client operation path source label labelled id unwraps client,
        except_map_error_eq_ok]
      exact made
  | stored id issued foreign held =>
      exact journal.extract_stored operation path source label labelled id unwraps issued foreign
        held
  | generic id failureText foreign unclassified shown =>
      rw [journal.extract_generic operation path source label labelled id unwraps foreign
        unclassified, shown]
      rfl

theorem extract_eq_ok_iff (journal : Journal) (operation : String) (path : Path)
    (source : Source) (result : Journal × Classification) :
    journal.extract operation path source = .ok result ↔
      ∃ label found, path.label? = .ok label ∧ journal.history.Unwraps source found ∧
        journal.Extracts operation path label found result := by
  constructor
  · intro made
    obtain ⟨label, labelled, rest⟩ := (except_bind_eq_ok _ _ _).mp made
    obtain ⟨found, read, _⟩ := (except_bind_eq_ok _ _ _).mp rest
    rw [except_map_error_eq_ok] at labelled
    have unwraps := History.unwraps_of_underlying read
    exact ⟨label, found, labelled, unwraps, .of_extract labelled unwraps made⟩
  · rintro ⟨label, found, labelled, unwraps, extracts⟩
    exact extracts.extract labelled unwraps

/-- When an extracted error is an interruption, and when it is a generic one. -/
theorem Extracts.kind {journal : Journal} {operation : String} {path : Path}
    {label : Option String} {found : Option FailureId} {result : Journal × Classification}
    (extracts : journal.Extracts operation path label found result) :
    (result.2.error.kind = .interrupted ↔
      found = none ∨ ∃ id, found = some id ∧
        ((journal.failure id).isFromClient = true ∧ (journal.failure id).isService = false ∧
            journal.history.isInterrupted (some id) = true ∨
          (journal.failure id).isFromClient = false ∧
            ∃ issued, (journal.failure id).stored? = some issued ∧
              issued.error.kind = .interrupted)) ∧
      (result.2.error.kind = .generic ↔
        ∃ id, found = some id ∧ (journal.failure id).isFromClient = false ∧
          ((journal.failure id).isStorage = false ∨
            ∃ issued, (journal.failure id).stored? = some issued ∧
              issued.error.kind = .generic)) := by
  cases extracts with
  | cancelled => simp [issue, cancelledError, ClassifiedError.kind, Variant.kind]
  | classified id result client made =>
      obtain ⟨error, classified, rfl⟩ :=
        (journal.classify_eq_ok_iff operation path id result).mp made
      obtain ⟨interrupted, notGeneric⟩ :=
        journal.history.classify_kind operation path id error classified
      have interruptedIff : error.kind = .interrupted ↔ (journal.failure id).isService = false ∧
          journal.history.isInterrupted (some id) = true := interrupted
      simp [issue, interruptedIff, notGeneric, client]
  | stored id issued foreign held =>
      have stored := (stored_iff_is_storage _).mpr ⟨issued, held⟩
      simp [held, foreign, stored]
  | generic id failureText foreign unclassified shown =>
      have notStored := (stored_none_iff _).mpr unclassified
      simp [issue, genericError, ClassifiedError.kind, Variant.kind, notStored, foreign,
        unclassified]

/-- A cause that counts as false is not taken, although the chain of causes leads to it. -/
theorem wrapper_unwraps (journal : Journal) {id cause : FailureId}
    (foreign : (journal.failure id).isFromClient = false)
    (unclassified : (journal.failure id).isStorage = false)
    (linked : (journal.history.occurrence id).cause = some cause) :
    journal.history.next? id = some cause ∧
      journal.history.Unwraps (.failure id)
        (some (if (journal.failure cause).truth = true then cause else id)) := by
  constructor
  · rw [History.next?, Occurrence.next, linked]
  · cases counts : (journal.failure cause).truth with
    | true => exact .wrapped id cause foreign unclassified linked counts
    | false =>
        apply History.Unwraps.alone id foreign unclassified
        intro other same
        rw [linked] at same
        rw [← Option.some.inj same]
        exact counts

/-- Extraction is decided by the failure that the source stands for. A cancelled future stands for
none and gets a cancellation of its own, which is the one failure recorded; client failures are
classified as they are, storage failures give back what they carry, and all others are generic. A
wrapper stands for its cause if that counts as true, and for itself if it does not. -/
theorem extract_follows_underlying (journal : Journal) (operation : String) (path : Path)
    (source : Source) (label : Option String) (labelled : path.label? = .ok label) :
    (source.HoldsFailure ↔ ∃ found, journal.history.Unwraps source found) ∧
    (∀ id cause, (journal.failure id).isFromClient = false →
      (journal.failure id).isStorage = false →
      (journal.history.occurrence id).cause = some cause →
      journal.history.next? id = some cause ∧
        journal.history.Unwraps (.failure id)
          (some (if (journal.failure cause).truth = true then cause else id))) ∧
    (journal.history.Unwraps source none →
      ∃ finish issued, journal.extract operation path source = .ok (finish, issued) ∧
        issued.error = {
          variant := .interrupted
          message := operation ++ " failed: cancelled"
          operation := operation
          cause := journal.nextId
          path := label
          statusCode := none } ∧
        journal.history.Extends finish.history ∧
        finish.history.size = journal.history.size + 1 ∧
        finish.failure journal.nextId =
          .ofArguments "CancelledError" [.text (operation ++ " was cancelled")]
            [.futureCancelled]) ∧
    (∀ id, journal.history.Unwraps source (some id) →
      ((journal.failure id).isFromClient = true →
        journal.extract operation path source =
          (journal.classify operation path id).mapError .classification) ∧
      (∀ issued, (journal.failure id).isFromClient = false →
        (journal.failure id).stored? = some issued →
        journal.extract operation path source = .ok (journal, issued)) ∧
      ∀ failureText, (journal.failure id).isFromClient = false →
        (journal.failure id).isStorage = false → (journal.failure id).text = .ok failureText →
        ∃ finish issued, journal.extract operation path source = .ok (finish, issued) ∧
          finish.history = journal.history ∧
          issued.error = {
            variant := .generic
            message := if (journal.failure id).isSystem then failureText
              else operation ++ " failed: " ++ failureText
            operation := operation
            cause := id
            path := label
            statusCode := none }) ∧
    ∀ finish issued, journal.extract operation path source = .ok (finish, issued) →
      (issued.error.kind = .interrupted ↔
        journal.history.Unwraps source none ∨
          ∃ id, journal.history.Unwraps source (some id) ∧
            ((journal.failure id).isFromClient = true ∧ (journal.failure id).isService = false ∧
                journal.history.isInterrupted (some id) = true ∨
              (journal.failure id).isFromClient = false ∧
                ∃ stored, (journal.failure id).stored? = some stored ∧
                  stored.error.kind = .interrupted)) ∧
      (issued.error.kind = .generic ↔
        ∃ id, journal.history.Unwraps source (some id) ∧
          (journal.failure id).isFromClient = false ∧
          ((journal.failure id).isStorage = false ∨
            ∃ stored, (journal.failure id).stored? = some stored ∧
              stored.error.kind = .generic)) := by
  refine ⟨journal.history.holds_failure_iff_unwraps source, ?_, ?_, ?_, ?_⟩
  · intro id cause foreign unclassified linked
    exact journal.wrapper_unwraps foreign unclassified linked
  · intro unwraps
    exact ⟨_, _, journal.extract_cancelled operation path source label labelled unwraps, rfl,
      journal.history.extends_record _, journal.history.size_record _,
      journal.failure_recorded _⟩
  · intro id unwraps
    refine ⟨journal.extract_client operation path source label labelled id unwraps, ?_, ?_⟩
    · intro issued foreign held
      exact journal.extract_stored operation path source label labelled id unwraps issued foreign
        held
    · intro failureText foreign unclassified shown
      rw [journal.extract_generic operation path source label labelled id unwraps foreign
        unclassified, shown]
      exact ⟨_, _, rfl, rfl, rfl⟩
  · intro finish issued made
    obtain ⟨_, found, _, unwraps, extracts⟩ :=
      (journal.extract_eq_ok_iff operation path source (finish, issued)).mp made
    have standsFor : ∀ other, journal.history.Unwraps source other ↔ found = other := by
      intro other
      constructor
      · exact journal.history.unwraps_unique source found other unwraps
      · rintro rfl
        exact unwraps
    simp only [standsFor]
    exact extracts.kind

/-- A system call that timed out, and a failure that counts as false, raised into another one. -/
def timedOutJournal : Journal where
  history := ⟨#[
    .fresh (.ofSystem .timeout none [.text "slow"]),
    .fresh { Failure.ofArguments "EmptyResult" [.text "no rows"] with truth := false },
    (Occurrence.fresh (.ofArguments "RuntimeError" [.text "sync"])).raisedFrom (some 1)]⟩
  issued := 0

/-- A future that failed with a timeout is a failed one, although the timeout is an interrupt. -/
theorem failed_with_timeout_is_generic :
    (Path.object "Key" (.text "data/key")).label? = .ok (some "data/key") ∧
      timedOutJournal.history.isInterrupted (some 0) = true ∧
      ∃ finish issued, timedOutJournal.extract "getObject"
          (.object "Key" (.text "data/key")) (.future .eventLoop (.failed 0)) =
            .ok (finish, issued) ∧
        issued.error.kind = .generic ∧ issued.error.message = "slow" := by
  have interrupted : timedOutJournal.history.isInterrupted (some 0) = true := by
    apply (timedOutJournal.history.is_interrupted_iff_after 0).mpr
    exact ⟨0, 0, rfl, rfl⟩
  obtain ⟨_, _, _, byFailure, _⟩ := timedOutJournal.extract_follows_underlying "getObject"
    (.object "Key" (.text "data/key")) (.future .eventLoop (.failed 0)) (some "data/key") rfl
  obtain ⟨_, _, generic⟩ := byFailure 0 (.failed .eventLoop 0)
  obtain ⟨finish, issued, made, _, error⟩ := generic "slow" rfl rfl rfl
  refine ⟨rfl, interrupted, finish, issued, made, ?_, ?_⟩
  · rw [error]
    rfl
  · rw [error]
    rfl

theorem empty_result_passed_over :
    ∃ finish issued, timedOutJournal.extract "getObject" .absent (.failure 2) =
      .ok (finish, issued) ∧ issued.error.cause = 2 :=
  ⟨_, _, rfl, rfl⟩

/-- It is not so that every failure with a cause stands for that cause: one that counts as false is
passed over, and the failure around it is extracted in its place. -/
theorem cause_that_counts_as_false_is_passed_over :
    ¬∀ (journal : Journal) (operation : String) (path : Path) (label : Option String)
        (wrapper cause : FailureId) (failureText : String),
      path.label? = .ok label → (journal.failure wrapper).isFromClient = false →
      (journal.failure wrapper).isStorage = false →
      (journal.history.occurrence wrapper).cause = some cause →
      (journal.failure cause).isFromClient = false → (journal.failure cause).isStorage = false →
      (journal.failure cause).text = .ok failureText →
      ∃ finish issued, journal.extract operation path (.failure wrapper) = .ok (finish, issued) ∧
        issued.error.cause = cause := by
  intro taken
  obtain ⟨_, issued, made, cause⟩ :=
    taken timedOutJournal "getObject" .absent none 2 1 "no rows" rfl rfl rfl rfl rfl rfl rfl
  obtain ⟨_, _, extracted, wrapper⟩ := empty_result_passed_over
  rw [extracted] at made
  cases made
  rw [wrapper] at cause
  cases cause

end Journal

end ObjectStore
