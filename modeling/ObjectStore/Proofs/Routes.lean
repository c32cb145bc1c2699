import ObjectStore.Proofs.Extraction

/-!
# Routes to one failure

A failure comes to extraction by itself, out of a future that failed with it, or from under another
failure that was raised from it. The route does not show in what is extracted, unless the failure
counts as false: then it does not come out from under the other one. When wrappers stand around each
other only the outermost is removed, whatever the innermost one was raised from.
-/

namespace ObjectStore.Journal

set_option autoImplicit false

theorem extract_congr (journal : Journal) (operation : String) (path : Path) {left right : Source}
    {found : Option FailureId} (unwrapsLeft : journal.history.Unwraps left found)
    (unwrapsRight : journal.history.Unwraps right found) :
    journal.extract operation path left = journal.extract operation path right := by
  unfold extract
  rw [unwrapsLeft.underlying, unwrapsRight.underlying]

/-- Extracting a failure records nothing, so it can be done once more. The second error may have a
number of its own; one that a storage failure carries has not. -/
theorem Extracts.again {journal later : Journal} {operation : String} {path : Path}
    {label : Option String} {id : FailureId} {issued : Classification}
    (extracts : journal.Extracts operation path label (some id) (later, issued)) :
    later.history = journal.history ∧
      ∃ last again, later.Extracts operation path label (some id) (last, again) ∧
        again.error = issued.error ∧
        ((journal.failure id).isFromClient = false → (journal.failure id).isStorage = true →
          again = issued) := by
  cases extracts with
  | classified _ _ client made =>
      obtain ⟨error, decided, handedOut⟩ :=
        (journal.classify_eq_ok_iff operation path id _).mp made
      cases handedOut
      have madeAgain := ((journal.issue error).1.classify_eq_ok_iff operation path id _).mpr
        ⟨error, decided, rfl⟩
      refine ⟨rfl, _, _, .classified id _ client madeAgain, rfl, ?_⟩
      intro foreign
      rw [client] at foreign
      cases foreign
  | stored _ _ foreign held =>
      exact ⟨rfl, _, _, .stored id issued foreign held, rfl, fun _ _ => rfl⟩
  | generic _ failureText foreign unclassified shown =>
      refine ⟨rfl, _, _, .generic id failureText foreign unclassified shown, rfl, ?_⟩
      intro _ stored
      rw [unclassified] at stored
      cases stored

/-- Two sources give the same. Where one is extracted the other has the same outcome, faults
included. After one was extracted the other gives an error that agrees with it in every field, and
the very same error when both stand for a storage failure. -/
structure SameExtraction (journal : Journal) (operation : String) (path : Path)
    (left right : Source) : Prop where
  outcome : journal.extract operation path left = journal.extract operation path right
  afterwards : ∀ later issued, journal.extract operation path left = .ok (later, issued) →
    ∃ last again, later.extract operation path right = .ok (last, again) ∧
      again.error = issued.error ∧
      ∀ id, journal.history.Unwraps left (some id) → (journal.failure id).isFromClient = false →
        (journal.failure id).isStorage = true → again = issued

theorem same_extraction_of_unwraps (journal : Journal) (operation : String) (path : Path)
    {left right : Source} {id : FailureId} (unwrapsLeft : journal.history.Unwraps left (some id))
    (unwrapsRight : journal.history.Unwraps right (some id)) :
    journal.SameExtraction operation path left right := by
  constructor
  · exact journal.extract_congr operation path unwrapsLeft unwrapsRight
  · intro later issued made
    obtain ⟨label, found, labelled, unwraps, extracts⟩ :=
      (journal.extract_eq_ok_iff operation path left (later, issued)).mp made
    obtain rfl : found = some id := journal.history.unwraps_unique left _ _ unwraps unwrapsLeft
    obtain ⟨history, last, again, extractsAgain, error, stored⟩ := extracts.again
    refine ⟨last, again, ?_, error, ?_⟩
    · rw [← history] at unwrapsRight
      exact (later.extract_eq_ok_iff operation path right (last, again)).mpr
        ⟨label, some id, labelled, unwrapsRight, extractsAgain⟩
    · intro other unwrapsOther
      obtain rfl : id = other :=
        Option.some.inj (journal.history.unwraps_unique left _ _ unwrapsLeft unwrapsOther)
      exact stored

/-- The failures that are never looked through stand for themselves, as do those without a cause
that counts as true. -/
theorem unwraps_itself (journal : Journal) (id : FailureId)
    (bare : (journal.failure id).isFromClient = true ∨ (journal.failure id).isStorage = true ∨
      ∀ cause, (journal.history.occurrence id).cause = some cause →
        (journal.failure cause).truth = false) :
    journal.history.Unwraps (.failure id) (some id) := by
  cases looked : isOpaqueWrapper (journal.failure id) with
  | true => exact .itself id ((is_opaque_wrapper_iff _).mp looked)
  | false =>
      obtain ⟨foreign, unclassified⟩ := (not_opaque_wrapper_iff _).mp looked
      rcases bare with client | storage | unlinked
      · rw [foreign] at client
        cases client
      · rw [unclassified] at storage
        cases storage
      · exact .alone id foreign unclassified unlinked

structure Wraps (journal : Journal) (wrapper cause : FailureId) : Prop where
  foreign : (journal.failure wrapper).isFromClient = false
  unclassified : (journal.failure wrapper).isStorage = false
  linked : (journal.history.occurrence wrapper).cause = some cause

theorem Wraps.unwraps {journal : Journal} {wrapper cause : FailureId}
    (wraps : journal.Wraps wrapper cause) (counts : (journal.failure cause).truth = true) :
    journal.history.Unwraps (.failure wrapper) (some cause) :=
  .wrapped wrapper cause wraps.foreign wraps.unclassified wraps.linked counts

/-- A failure that stands for itself is extracted as from a future that failed with it, and a
wrapper is extracted as from a future that failed with its cause, or with the wrapper where the
cause counts as false. So of a wrapper around a wrapper the inner one is what counts: a new error is
handed out, which is generic and points at the inner one, and which is nothing that classifying the
failure at the bottom could give. -/
theorem routes_to_one_failure_agree (journal : Journal) (operation : String) (path : Path) :
    (∀ id owner,
      (journal.failure id).isFromClient = true ∨ (journal.failure id).isStorage = true ∨
          (journal.history.occurrence id).cause = none →
        journal.SameExtraction operation path (.failure id) (.future owner (.failed id))) ∧
    (∀ wrapper cause owner, journal.Wraps wrapper cause →
      journal.SameExtraction operation path (.failure wrapper)
        (.future owner (.failed (if (journal.failure cause).truth = true then cause
          else wrapper)))) ∧
    ∀ outer inner bottom label failureText, journal.Wraps outer inner →
      journal.Wraps inner bottom → (journal.failure inner).truth = true →
      path.label? = .ok label → (journal.failure inner).text = .ok failureText →
        ∃ finish issued, journal.extract operation path (.failure outer) = .ok (finish, issued) ∧
          issued.number = journal.issued ∧ issued.error.variant = .generic ∧
          issued.error.cause = inner ∧ ∀ otherOperation otherPath error,
            journal.history.classify otherOperation otherPath bottom = .ok error →
              issued.error.variant ≠ error.variant := by
  refine ⟨?_, ?_, ?_⟩
  · intro id owner bare
    have standsForItself : journal.history.Unwraps (.failure id) (some id) := by
      apply journal.unwraps_itself id
      refine bare.imp_right fun other => other.imp_right fun unlinked cause linked => ?_
      rw [unlinked] at linked
      cases linked
    exact journal.same_extraction_of_unwraps operation path standsForItself (.failed owner id)
  · intro wrapper cause owner wraps
    obtain ⟨_, unwraps⟩ :=
      journal.wrapper_unwraps wraps.foreign wraps.unclassified wraps.linked
    exact journal.same_extraction_of_unwraps operation path unwraps (.failed owner _)
  · intro outer inner bottom label failureText around within counts labelled described
    have made := journal.extract_generic operation path (.failure outer) label labelled inner
      (around.unwraps counts) within.foreign within.unclassified
    rw [described] at made
    refine ⟨_, _, made, rfl, rfl, rfl, ?_⟩
    intro otherOperation otherPath error classified same
    obtain ⟨_, notGeneric⟩ :=
      journal.history.classify_kind otherOperation otherPath bottom error classified
    exact notGeneric (congrArg Variant.kind same.symm)

def twiceWrappedJournal : Journal where
  history := ⟨#[
    .fresh (.ofResponse "NoSuchKey" ⟨some [("Code", .text "NoSuchKey")],
      some [("HTTPStatusCode", .integer 404)]⟩ "missing"),
    (Occurrence.fresh (.ofArguments "RuntimeError" [.text "read"])).raisedFrom (some 0),
    (Occurrence.fresh (.ofArguments "RuntimeError" [.text "sync"])).raisedFrom (some 1)]⟩
  issued := 0

theorem twice_wrapped_object_is_generic :
    twiceWrappedJournal.SameExtraction "getObject" (.text "data/key") (.failure 0)
        (.future .eventLoop (.failed 0)) ∧
      twiceWrappedJournal.SameExtraction "getObject" (.text "data/key") (.failure 1)
        (.future .threadPool (.failed 0)) ∧
      (∃ finish issued, twiceWrappedJournal.extract "getObject" (.text "data/key") (.failure 1) =
        .ok (finish, issued) ∧ issued.error.kind = .notFound) ∧
      ∃ finish issued, twiceWrappedJournal.extract "getObject" (.text "data/key") (.failure 2) =
        .ok (finish, issued) ∧ issued.error.kind = .generic ∧ issued.error.cause = 1 := by
  obtain ⟨itself, wrapped, twice⟩ :=
    twiceWrappedJournal.routes_to_one_failure_agree "getObject" (.text "data/key")
  obtain ⟨finish, issued, made, _, generic, cause, _⟩ :=
    twice 2 1 0 (some "data/key") "read" ⟨rfl, rfl, rfl⟩ ⟨rfl, rfl, rfl⟩ rfl rfl rfl
  refine ⟨itself 0 .eventLoop (Or.inl rfl), wrapped 1 0 .threadPool ⟨rfl, rfl, rfl⟩,
    ⟨_, _, rfl, rfl⟩, finish, issued, made, ?_, cause⟩
  rw [ClassifiedError.kind, generic]
  rfl

/-- Raised from a failure that counts as false, a wrapper is not extracted as from a future that
failed with its cause. -/
theorem route_through_wrapper_shows :
    ¬∀ (journal : Journal) (operation : String) (path : Path) (wrapper cause : FailureId)
        (owner : FutureOwner), journal.Wraps wrapper cause →
      journal.SameExtraction operation path (.failure wrapper)
        (.future owner (.failed cause)) := by
  intro same
  have outcome := (same timedOutJournal "getObject" .absent 2 1 .threadPool ⟨rfl, rfl, rfl⟩).outcome
  obtain ⟨_, _, wrapped, itself⟩ := empty_result_passed_over
  obtain ⟨_, _, failed, cause⟩ : ∃ finish issued,
      timedOutJournal.extract "getObject" .absent (.future .threadPool (.failed 1)) =
        .ok (finish, issued) ∧ issued.error.cause = 1 := ⟨_, _, rfl, rfl⟩
  rw [wrapped, failed] at outcome
  cases outcome
  rw [itself] at cause
  cases cause

end ObjectStore.Journal
