import ObjectStore.Proofs.Extraction
import ObjectStore.Proofs.Refusal

/-!
# Sources that hold no failure

A future that is not done and one that succeeded hold no failure, and no other source is rejected.
The label of the path is asked for before the source is looked at. What is behind any other source
is extracted whenever it can be described, so no cancelled or failed future is ever taken for one
without a failure.
-/

namespace ObjectStore

set_option autoImplicit false

theorem History.underlying_error_iff (history : History) (source : Source)
    (fault : ExtractionFault) :
    history.underlying source = .error fault ↔
      (fault = .notCompleted ∧
        ∃ owner, source = .future owner .pending ∨ source = .future owner .running) ∨
      fault = .noFailure ∧ ∃ owner result, source = .future owner (.finished result) := by
  cases source with
  | future owner state =>
      cases state <;> simp [underlying, FutureState.failure?, eq_comm]
  | failure id =>
      cases looked : isOpaqueWrapper (history.failure id) <;> simp [underlying, looked]

/-- A failure without a response has no details, so only its own text can be missing. -/
theorem History.refuses_plain_iff {history : History} {path : Path} {label : Option String}
    {id : FailureId} (labelled : path.label? = .ok label)
    (plain : (history.failure id).isService = false) (fault : ClassificationFault) :
    history.Refuses path id fault ↔
      ∃ reason, (history.failure id).text = .error reason ∧ .text reason = fault := by
  constructor
  · intro refuses
    cases refuses with
    | unlabelled _ missing =>
        rw [(path.label_error_iff fault).mpr missing] at labelled
        cases labelled
    | untold _ reason _ missing => exact ⟨reason, missing, rfl⟩
    | undetailed _ _ _ _ _ _ _ _ found =>
        rw [(not_service_iff _).mp plain] at found
        cases found
  · rintro ⟨reason, missing, rfl⟩
    exact .untold label reason labelled missing

/-- A failure of another origin that carries a classified error need not be described, since that
error is given back. -/
def Failure.Extractable (failure : Failure) : Prop :=
  failure.isFromClient = true ∨ failure.isStorage = false → failure.Describable

theorem Failure.Describable.extractable {failure : Failure} (describable : failure.Describable) :
    failure.Extractable :=
  fun _ => describable

namespace Journal

theorem extract_unlabelled (journal : Journal) (operation : String) {path : Path}
    (source : Source) {fault : ClassificationFault} (missing : path.Unlabelled fault) :
    journal.extract operation path source = .error (.classification fault) := by
  rw [extract, (path.label_error_iff fault).mpr missing]
  rfl

/-- A generic error fails for the text of the failure alone, and so would its classification. -/
theorem extract_generic_error_iff (journal : Journal) (operation : String) {path : Path}
    {source : Source} {label : Option String} {id : FailureId} (labelled : path.label? = .ok label)
    (unwraps : journal.history.Unwraps source (some id))
    (foreign : (journal.failure id).isFromClient = false)
    (unclassified : (journal.failure id).isStorage = false) (fault : ExtractionFault) :
    journal.extract operation path source = .error fault ↔
      ∃ reason, journal.history.Refuses path id reason ∧ .classification reason = fault := by
  obtain ⟨plain, _⟩ := (foreign_iff _).mp foreign
  have refuses := History.refuses_plain_iff labelled plain
  rw [journal.extract_generic operation path source label labelled id unwraps foreign unclassified]
  cases told : (journal.failure id).text with
  | error reason =>
      constructor
      · intro same
        cases same
        exact ⟨_, (refuses _).mpr ⟨reason, told, rfl⟩, rfl⟩
      · rintro ⟨_, refused, rfl⟩
        obtain ⟨other, missing, rfl⟩ := (refuses _).mp refused
        cases told.symm.trans missing
        rfl
  | ok failureText =>
      constructor
      · intro impossible
        cases impossible
      · rintro ⟨_, refused, _⟩
        obtain ⟨other, missing, _⟩ := (refuses _).mp refused
        cases told.symm.trans missing

/-- The failure behind a source is extracted unless it is one that cannot be classified. -/
theorem extract_held_error_iff (journal : Journal) (operation : String) {path : Path}
    {source : Source} {label : Option String} {id : FailureId} (labelled : path.label? = .ok label)
    (unwraps : journal.history.Unwraps source (some id)) (fault : ExtractionFault) :
    journal.extract operation path source = .error fault ↔
      ((journal.failure id).isFromClient = true ∨ (journal.failure id).isStorage = false) ∧
        ∃ reason, journal.history.Refuses path id reason ∧ .classification reason = fault := by
  cases client : (journal.failure id).isFromClient with
  | true =>
      rw [journal.extract_client operation path source label labelled id unwraps client,
        except_map_error_eq_error]
      simp only [journal.classify_eq_error_iff operation path id, true_or, true_and]
  | false =>
      cases stored : (journal.failure id).isStorage with
      | true =>
          obtain ⟨issued, held⟩ := (stored_iff_is_storage _).mp stored
          rw [journal.extract_stored operation path source label labelled id unwraps issued client
            held]
          simp
      | false =>
          rw [journal.extract_generic_error_iff operation labelled unwraps client stored]
          simp

theorem extract_unheld (journal : Journal) (operation : String) {path : Path} {source : Source}
    {label : Option String} {fault : ExtractionFault} (labelled : path.label? = .ok label)
    (empty : journal.history.underlying source = .error fault) :
    journal.extract operation path source = .error fault := by
  rw [extract, labelled, empty]
  rfl

/-- Under a path with a label either the source holds nothing, or what it holds is not described. -/
theorem extract_eq_error_iff (journal : Journal) (operation : String) {path : Path}
    (source : Source) {label : Option String} (labelled : path.label? = .ok label)
    (fault : ExtractionFault) :
    journal.extract operation path source = .error fault ↔
      journal.history.underlying source = .error fault ∨
        ∃ id, journal.history.Unwraps source (some id) ∧
          ((journal.failure id).isFromClient = true ∨ (journal.failure id).isStorage = false) ∧
          ∃ reason, journal.history.Refuses path id reason ∧ .classification reason = fault := by
  have unwrapsIff := journal.history.underlying_iff_unwraps source
  cases read : journal.history.underlying source with
  | error reason =>
      rw [journal.extract_unheld operation labelled read]
      constructor
      · intro same
        cases same
        exact Or.inl rfl
      · rintro (same | ⟨id, unwraps, _⟩)
        · cases same
          rfl
        · rw [(unwrapsIff (some id)).mpr unwraps] at read
          cases read
  | ok found =>
      have unwraps := (unwrapsIff found).mp read
      cases found with
      | none =>
          rw [journal.extract_cancelled operation path source label labelled unwraps]
          constructor
          · intro impossible
            cases impossible
          · rintro (impossible | ⟨id, unwrapsOther, _⟩)
            · cases impossible
            · cases journal.history.unwraps_unique source _ _ unwraps unwrapsOther
      | some id =>
          rw [journal.extract_held_error_iff operation labelled unwraps fault]
          constructor
          · intro refused
            exact Or.inr ⟨id, unwraps, refused⟩
          · rintro (impossible | ⟨other, unwrapsOther, refused⟩)
            · cases impossible
            · cases journal.history.unwraps_unique source _ _ unwraps unwrapsOther
              exact refused

theorem extract_returns_iff (journal : Journal) (operation : String) {path : Path}
    (source : Source) {label : Option String} (labelled : path.label? = .ok label) :
    (∃ result, journal.extract operation path source = .ok result) ↔
      source.HoldsFailure ∧
        ∀ id, journal.history.Unwraps source (some id) → (journal.failure id).Extractable := by
  have held : source.HoldsFailure ↔ ∀ fault, journal.history.underlying source ≠ .error fault := by
    rw [journal.history.holds_failure_iff_unwraps source, ← except_returns_iff]
    exact exists_congr fun found => (journal.history.underlying_iff_unwraps source found).symm
  have described : ∀ id, (journal.failure id).Describable ↔
      ∀ reason, ¬journal.history.Refuses path id reason :=
    fun id => History.describable_iff_not_refused labelled
  rw [except_returns_iff, held]
  constructor
  · intro never
    constructor
    · intro fault empty
      exact never fault (journal.extract_unheld operation labelled empty)
    · intro id unwraps asked
      apply (described id).mpr
      intro reason refused
      apply never (.classification reason)
      exact (journal.extract_held_error_iff operation labelled unwraps _).mpr
        ⟨asked, reason, refused, rfl⟩
  · rintro ⟨holds, extractable⟩ fault refused
    rcases (journal.extract_eq_error_iff operation source labelled fault).mp refused with
      empty | ⟨id, unwraps, asked, reason, reasonHolds, _⟩
    · exact holds fault empty
    · exact (described id).mp (extractable id unwraps asked) reason reasonHolds

/-- The label of the path comes first. After that a source is rejected exactly when it is a future
that is not done, or one that succeeded, whoever completes it and with whatever result. Every other
source gives a classified error, as long as the failure behind it can be described or carries one; a
cancelled future has none behind it and always gives one. -/
theorem only_sources_without_failure_are_rejected (journal : Journal) (operation : String)
    (path : Path) (source : Source) :
    (∀ fault, path.Unlabelled fault →
      journal.extract operation path source = .error (.classification fault)) ∧
    (∀ label, path.label? = .ok label →
      (journal.extract operation path source = .error .notCompleted ↔
        ∃ owner, source = .future owner .pending ∨ source = .future owner .running) ∧
      (journal.extract operation path source = .error .noFailure ↔
        ∃ owner result, source = .future owner (.finished result)) ∧
      ((∃ result, journal.extract operation path source = .ok result) ↔
        source.HoldsFailure ∧
          ∀ id, journal.history.Unwraps source (some id) → (journal.failure id).Extractable)) ∧
    (∀ owner other state, journal.extract operation path (.future owner state) =
      journal.extract operation path (.future other state)) ∧
    (∀ owner result other, journal.extract operation path (.future owner (.finished result)) =
      journal.extract operation path (.future owner (.finished other))) ∧
    (ExtractionFault.notCompleted.failure.className = "ValueError" ∧
      ExtractionFault.notCompleted.failure.text = .ok "Future has not completed") ∧
    ExtractionFault.noFailure.failure.className = "ValueError" ∧
    ExtractionFault.noFailure.failure.text = .ok "Future completed without an exception" := by
  refine ⟨fun fault => journal.extract_unlabelled operation source, ?_, ?_, ?_, ⟨rfl, rfl⟩, rfl,
    rfl⟩
  · intro label labelled
    have rejected := journal.extract_eq_error_iff operation source labelled
    refine ⟨?_, ?_, journal.extract_returns_iff operation source labelled⟩
    · rw [rejected .notCompleted, journal.history.underlying_error_iff source]
      simp
    · rw [rejected .noFailure, journal.history.underlying_error_iff source]
      simp
  · intro owner other state
    rfl
  · intro owner result other
    rfl

def cancelledTaskJournal : Journal where
  history := History.empty.record (.fresh (.ofArguments "CancelledError" [] [.taskCancelled]))
  issued := 0

/-- The path is at fault although the future is still running. A future that gave zero has
succeeded. A cancelled future is not rejected, nor is one that failed with a cancellation. -/
theorem cancelled_task_is_not_rejected :
    (Path.object "Label" .null).Unlabelled (.notPathText "Label" "NoneType") ∧
      Path.absent.label? = .ok none ∧
      cancelledTaskJournal.extract "getObject" (.object "Label" .null)
          (.future .threadPool .running) =
        .error (.classification (.notPathText "Label" "NoneType")) ∧
      cancelledTaskJournal.extract "getObject" .absent (.future .eventLoop .pending) =
        .error .notCompleted ∧
      cancelledTaskJournal.extract "getObject" .absent
        (.future .threadPool (.finished (.integer 0))) = .error .noFailure ∧
      (∃ result, cancelledTaskJournal.extract "getObject" .absent
        (.future .threadPool (.cancelled false)) = .ok result) ∧
      ∃ result, cancelledTaskJournal.extract "getObject" .absent
        (.future .eventLoop (.failed 0)) = .ok result := by
  have misgiven : (Path.object "Label" .null).Unlabelled (.notPathText "Label" "NoneType") :=
    .misgiven "Label" .null (by simp) (by simp)
  have describable : (cancelledTaskJournal.failure 0).Describable := by
    refine ⟨⟨"", rfl⟩, ?_⟩
    intro response entries found
    cases found
  have byPath := only_sources_without_failure_are_rejected cancelledTaskJournal "getObject"
    (.object "Label" .null) (.future .threadPool .running)
  have bySource :=
    only_sources_without_failure_are_rejected cancelledTaskJournal "getObject" .absent
  refine ⟨misgiven, rfl, byPath.1 _ misgiven, ?_, ?_, ?_, ?_⟩
  · exact ((bySource (.future .eventLoop .pending)).2.1 none rfl).1.mpr ⟨_, Or.inl rfl⟩
  · exact ((bySource (.future .threadPool (.finished (.integer 0)))).2.1 none rfl).2.1.mpr
      ⟨_, _, rfl⟩
  · apply ((bySource (.future .threadPool (.cancelled false))).2.1 none rfl).2.2.mpr
    refine ⟨trivial, ?_⟩
    intro id unwraps
    cases unwraps
  · apply ((bySource (.future .eventLoop (.failed 0))).2.1 none rfl).2.2.mpr
    refine ⟨trivial, ?_⟩
    intro id unwraps
    cases unwraps
    exact describable.extractable

end Journal

end ObjectStore
