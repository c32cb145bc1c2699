import ObjectStore.Proofs.Independence
import ObjectStore.Proofs.Rejection
import ObjectStore.Proofs.Routes

/-!
# Equal results

Classified errors are equal when their variants and all their fields agree, the cause by identity.
Every variant keeps the operation, the label and the failure it was made from, those with a message
of their own included, so results are equal exactly for equal inputs. Extracting a second time gives
an equal error unless the future was cancelled: every extraction from such a future records a
cancellation of its own.
-/

namespace ObjectStore

set_option autoImplicit false

theorem ClassifiedError.agree_self (error : ClassifiedError) : error.agree error = true := by
  simp [agree, error.variant.agree_self]

/-- Equal errors have the same operation, label and cause. -/
theorem ClassifiedError.inputs_of_agree {left right : ClassifiedError}
    (agreed : left.agree right = true) :
    left.operation = right.operation ∧ left.path = right.path ∧ left.cause = right.cause := by
  simp only [agree, Bool.and_eq_true, beq_iff_eq] at agreed
  obtain ⟨⟨⟨⟨_, operation⟩, cause⟩, path⟩, _⟩ := agreed
  exact ⟨operation, path, cause⟩

/-- Whatever the variant, a classified error keeps what it was made from. -/
theorem classify_keeps_inputs {history : History} {operation : String} {path : Path}
    {id : FailureId} {error : ClassifiedError}
    (made : history.classify operation path id = .ok error) :
    error.operation = operation ∧ path.label? = .ok error.path ∧ error.cause = id := by
  obtain ⟨label, failureText, verdict, labelled, _, _, rfl⟩ :=
    (history.classify_iff_verdict operation path id error).mp made
  exact ⟨rfl, labelled, rfl⟩

/-- Of the path nothing but the label is used. -/
theorem classify_of_label (history : History) (operation : String) {path other : Path}
    (same : path.label? = other.label?) (id : FailureId) :
    history.classify operation path id = history.classify operation other id := by
  rw [History.classify, History.classify, same]

theorem classify_agrees_iff {history : History} {operation otherOperation : String}
    {path otherPath : Path} {id other : FailureId} {left right : ClassifiedError}
    (madeLeft : history.classify operation path id = .ok left)
    (madeRight : history.classify otherOperation otherPath other = .ok right) :
    left.agree right = true ↔
      operation = otherOperation ∧ path.label? = otherPath.label? ∧ id = other := by
  obtain ⟨keptOperation, labelled, keptCause⟩ := classify_keeps_inputs madeLeft
  obtain ⟨keptOther, labelledOther, keptOtherCause⟩ := classify_keeps_inputs madeRight
  constructor
  · intro agreed
    obtain ⟨sameOperation, samePath, sameCause⟩ := ClassifiedError.inputs_of_agree agreed
    refine ⟨?_, ?_, ?_⟩
    · rw [← keptOperation, ← keptOther, sameOperation]
    · rw [labelled, labelledOther, samePath]
    · rw [← keptCause, ← keptOtherCause, sameCause]
  · rintro ⟨rfl, sameLabel, rfl⟩
    rw [classify_of_label history operation sameLabel id, madeRight] at madeLeft
    rw [Except.ok.inj madeLeft]
    exact left.agree_self

theorem Journal.classify_describable (journal : Journal) (operation : String) {path : Path}
    {label : Option String} {id : FailureId} (labelled : path.label? = .ok label)
    (describable : (journal.failure id).Describable) :
    ∃ error, journal.history.classify operation path id = .ok error ∧
      journal.classify operation path id = .ok (journal.issue error) := by
  obtain ⟨error, made⟩ :=
    (journal.history.classify_returns_iff operation labelled).mpr describable
  exact ⟨error, made, (journal.classify_eq_ok_iff operation path id _).mpr ⟨error, made, rfl⟩⟩

def Source.IsCancelled (source : Source) : Prop :=
  ∃ owner notified, source = .future owner (.cancelled notified)

/-- Only a cancelled future stands for no failure. -/
theorem History.unwraps_none_iff (history : History) (source : Source) :
    history.Unwraps source none ↔ source.IsCancelled := by
  constructor
  · intro unwraps
    cases unwraps with
    | cancelled owner notified => exact ⟨owner, notified, rfl⟩
  · rintro ⟨owner, notified, rfl⟩
    exact .cancelled owner notified

theorem History.unwraps_some_of_uncancelled (history : History) {source : Source}
    (holds : source.HoldsFailure) (uncancelled : ¬source.IsCancelled) :
    ∃ id, history.Unwraps source (some id) := by
  obtain ⟨found, unwraps⟩ := (history.holds_failure_iff_unwraps source).mp holds
  cases found with
  | none => exact absurd ((history.unwraps_none_iff source).mp unwraps) uncancelled
  | some id => exact ⟨id, unwraps⟩

namespace Journal

/-- A cancellation that is recorded in the later journal and was not in the earlier one. -/
structure NewCancellation (earlier later : Journal) (operation : String) (id : FailureId) :
    Prop where
  unrecorded : earlier.history.size ≤ id
  recorded : id < later.history.size
  failure : later.failure id =
    .ofArguments "CancelledError" [.text (operation ++ " was cancelled")] [.futureCancelled]

theorem extract_records_cancellation (journal : Journal) (operation : String) {path : Path}
    {label : Option String} {source : Source} (labelled : path.label? = .ok label)
    (cancelled : source.IsCancelled) :
    ∃ later issued, journal.extract operation path source = .ok (later, issued) ∧
      issued.error = cancelledError operation label issued.error.cause ∧
      journal.NewCancellation later operation issued.error.cause ∧
      journal.history.Extends later.history := by
  have unwraps := (journal.history.unwraps_none_iff source).mpr cancelled
  refine ⟨_, _, journal.extract_cancelled operation path source label labelled unwraps, rfl,
    ⟨Nat.le_refl _, ?_, journal.failure_recorded _⟩, journal.history.extends_record _⟩
  change journal.history.size < (journal.history.record _).size
  rw [journal.history.size_record]
  exact Nat.lt_succ_self _

/-- The second cancellation is recorded above the first, so no two errors have the same cause. -/
theorem extract_cancelled_twice (journal : Journal) (operation : String) {path : Path}
    {label : Option String} {source : Source} (labelled : path.label? = .ok label)
    (cancelled : source.IsCancelled) :
    ∃ middle last first second, journal.extract operation path source = .ok (middle, first) ∧
      middle.extract operation path source = .ok (last, second) ∧
      second.error = { first.error with cause := second.error.cause } ∧
      first.error.cause ≠ second.error.cause ∧
      journal.NewCancellation middle operation first.error.cause ∧
      middle.NewCancellation last operation second.error.cause ∧
      last.failure first.error.cause = last.failure second.error.cause := by
  obtain ⟨middle, first, once, firstError, firstCause, _⟩ :=
    journal.extract_records_cancellation operation labelled cancelled
  obtain ⟨last, second, again, secondError, secondCause, grown⟩ :=
    middle.extract_records_cancellation operation labelled cancelled
  refine ⟨middle, last, first, second, once, again, ?_, ?_, firstCause, secondCause, ?_⟩
  · rw [firstError]
    exact secondError
  · exact Nat.ne_of_lt (Nat.lt_of_lt_of_le firstCause.recorded secondCause.unrecorded)
  · rw [secondCause.failure, ← firstCause.failure]
    exact grown.failure first.error.cause firstCause.recorded

/-- What an uncancelled source holds is extracted a second time with the same result. -/
theorem extract_uncancelled (journal : Journal) (operation : String) {path : Path}
    {label : Option String} {source : Source} (labelled : path.label? = .ok label)
    (holds : source.HoldsFailure) (uncancelled : ¬source.IsCancelled)
    (extractable : ∀ id, journal.history.Unwraps source (some id) →
      (journal.failure id).Extractable) :
    ∃ middle last first second, journal.extract operation path source = .ok (middle, first) ∧
      middle.extract operation path source = .ok (last, second) ∧ second.error = first.error := by
  obtain ⟨id, unwraps⟩ := journal.history.unwraps_some_of_uncancelled holds uncancelled
  obtain ⟨⟨middle, first⟩, made⟩ :=
    (journal.extract_returns_iff operation source labelled).mpr ⟨holds, extractable⟩
  have same := journal.same_extraction_of_unwraps operation path unwraps unwraps
  obtain ⟨last, second, again, error, _⟩ := same.afterwards middle first made
  exact ⟨middle, last, first, second, made, again, error⟩

/-- Two failures of one history are classified as equal errors exactly when operation, label and
failure are the same; an absent path is like no other. A source that holds a failure gives equal
errors when it is extracted twice, except for a cancelled future. There the two errors differ in the
cause alone, since each time a cancellation is recorded that was not there before. -/
theorem equal_results_come_from_equal_inputs (journal : Journal) :
    (∀ (operation otherOperation : String) (path otherPath : Path)
        (label otherLabel : Option String) (id other : FailureId),
      path.label? = .ok label → otherPath.label? = .ok otherLabel →
      (journal.failure id).Describable → (journal.failure other).Describable →
      ∃ middle last first second,
        journal.classify operation path id = .ok (middle, first) ∧
        middle.classify otherOperation otherPath other = .ok (last, second) ∧
        (first.error.agree second.error = true ↔
          operation = otherOperation ∧ label = otherLabel ∧ id = other)) ∧
    ∀ (operation : String) (path : Path) (label : Option String) (source : Source),
      path.label? = .ok label → source.HoldsFailure →
      (∀ id, journal.history.Unwraps source (some id) → (journal.failure id).Extractable) →
      ∃ middle last first second,
        journal.extract operation path source = .ok (middle, first) ∧
        middle.extract operation path source = .ok (last, second) ∧
        (first.error.agree second.error = true ↔ ¬source.IsCancelled) ∧
        (source.IsCancelled →
          second.error = { first.error with cause := second.error.cause } ∧
          first.error.cause ≠ second.error.cause ∧
          journal.NewCancellation middle operation first.error.cause ∧
          middle.NewCancellation last operation second.error.cause ∧
          last.failure first.error.cause = last.failure second.error.cause) := by
  constructor
  · intro operation otherOperation path otherPath label otherLabel id other labelled
      labelledOther describable describableOther
    obtain ⟨left, decided, made⟩ :=
      journal.classify_describable operation labelled describable
    obtain ⟨right, decidedOther, madeOther⟩ :=
      (journal.issue left).1.classify_describable otherOperation labelledOther describableOther
    refine ⟨_, _, _, _, made, madeOther, ?_⟩
    change left.agree right = true ↔ _
    rw [classify_agrees_iff decided decidedOther, labelled, labelledOther, Except.ok.injEq]
  · intro operation path label source labelled holds extractable
    by_cases cancelled : source.IsCancelled
    · obtain ⟨middle, last, first, second, once, again, differ⟩ :=
        journal.extract_cancelled_twice operation labelled cancelled
      refine ⟨middle, last, first, second, once, again, ?_, fun _ => differ⟩
      refine iff_of_false ?_ (not_not_intro cancelled)
      intro agreed
      exact differ.2.1 (ClassifiedError.inputs_of_agree agreed).2.2
    · obtain ⟨middle, last, first, second, once, again, error⟩ :=
        journal.extract_uncancelled operation labelled holds cancelled extractable
      refine ⟨middle, last, first, second, once, again, ?_, ?_⟩
      · rw [error]
        exact iff_of_true first.error.agree_self cancelled
      · intro impossible
        exact absurd impossible cancelled

def movedTwiceJournal : Journal where
  history := movedBucketHistory.record
    (.fresh (.ofResponse "ClientError" movedBucket movedBucketText))
  issued := 0

theorem moved_bucket_describable (id : FailureId) (reported : id = 0 ∨ id = 1) :
    (movedTwiceJournal.failure id).Describable := by
  have found : movedTwiceJournal.failure id =
      .ofResponse "ClientError" movedBucket movedBucketText := by
    rcases reported with rfl | rfl <;> rfl
  rw [found]
  refine ⟨⟨movedBucketText, rfl⟩, ?_⟩
  intro response entries same needed key value member _ _ long
  cases same
  have refused := (value.shown_fails .integerTooLong).mpr ⟨rfl, long⟩
  obtain ⟨text, shown⟩ :=
    Attempt.moved_bucket_showable entries needed.body.error key value member
  rw [shown] at refused
  cases refused

/-- Both reports give the redirect to the same endpoint in the same words, and yet the errors are
not equal. A path object and a text with one label make no difference. Of two extractions from one
future only those from the cancelled one differ. -/
theorem moved_twice_and_cancelled_twice :
    (Path.text "data/key").label? = .ok (some "data/key") ∧
      (Path.object "Key" (.text "data/key")).label? = .ok (some "data/key") ∧
      (∃ middle last first second,
        movedTwiceJournal.classify "getObject" (.text "data/key") 0 = .ok (middle, first) ∧
        middle.classify "getObject" (.text "data/key") 1 = .ok (last, second) ∧
        first.error.message = second.error.message ∧
        ¬first.error.agree second.error = true) ∧
      (∃ middle last first second,
        movedTwiceJournal.classify "getObject" (.text "data/key") 0 = .ok (middle, first) ∧
        middle.classify "getObject" (.object "Key" (.text "data/key")) 0 = .ok (last, second) ∧
        first.error.agree second.error = true) ∧
      (∃ middle last first second,
        movedTwiceJournal.extract "getObject" (.text "data/key")
          (.future .eventLoop (.failed 1)) = .ok (middle, first) ∧
        middle.extract "getObject" (.text "data/key")
          (.future .eventLoop (.failed 1)) = .ok (last, second) ∧
        first.error.agree second.error = true) ∧
      ∃ middle last first second,
        movedTwiceJournal.extract "getObject" (.text "data/key")
          (.future .threadPool (.cancelled false)) = .ok (middle, first) ∧
        middle.extract "getObject" (.text "data/key")
          (.future .threadPool (.cancelled false)) = .ok (last, second) ∧
        ¬first.error.agree second.error = true ∧
        last.failure first.error.cause = last.failure second.error.cause := by
  obtain ⟨classified, extracted⟩ := equal_results_come_from_equal_inputs movedTwiceJournal
  have first := moved_bucket_describable 0 (Or.inl rfl)
  have second := moved_bucket_describable 1 (Or.inr rfl)
  refine ⟨rfl, rfl, ?_, ?_, ?_, ?_⟩
  · obtain ⟨middle, last, left, right, made, madeOther, agrees⟩ :=
      classified "getObject" "getObject" (.text "data/key") (.text "data/key") _ _ 0 1 rfl rfl
        first second
    refine ⟨middle, last, left, right, made, madeOther, ?_, ?_⟩
    · cases made
      cases madeOther
      rfl
    · rw [agrees]
      simp
  · obtain ⟨middle, last, left, right, made, madeOther, agrees⟩ :=
      classified "getObject" "getObject" (.text "data/key") (.object "Key" (.text "data/key"))
        _ _ 0 0 rfl rfl first first
    exact ⟨middle, last, left, right, made, madeOther, agrees.mpr ⟨rfl, rfl, rfl⟩⟩
  · have uncancelled : ¬(Source.future .eventLoop (.failed 1)).IsCancelled := by
      simp [Source.IsCancelled]
    obtain ⟨middle, last, left, right, once, again, agrees, _⟩ :=
      extracted "getObject" (.text "data/key") _ (.future .eventLoop (.failed 1)) rfl trivial
        (by
          intro id unwraps
          cases unwraps
          exact second.extractable)
    exact ⟨middle, last, left, right, once, again, agrees.mpr uncancelled⟩
  · have cancelled : (Source.future .threadPool (.cancelled false)).IsCancelled :=
      ⟨_, _, rfl⟩
    obtain ⟨middle, last, left, right, once, again, agrees, differ⟩ :=
      extracted "getObject" (.text "data/key") _ (.future .threadPool (.cancelled false)) rfl
        trivial
        (by
          intro id unwraps
          cases unwraps)
    obtain ⟨_, _, _, _, sameText⟩ := differ cancelled
    exact ⟨middle, last, left, right, once, again, fun agreed => agrees.mp agreed cancelled,
      sameText⟩

end Journal

end ObjectStore
