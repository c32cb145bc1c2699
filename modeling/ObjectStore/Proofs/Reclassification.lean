import ObjectStore.Proofs.Runs
import ObjectStore.Proofs.Verdict

/-!
# Classifying the cause of a classified error again

A classified error keeps the failure that it was made from. Whatever a run has done in between, that
failure is classified as the error says: its response is still the same, and so is every chain that
starts at it. Only generic errors are of no use for this, since classification makes none.
-/

namespace ObjectStore

set_option autoImplicit false

/-- What is decided of the cause of a classified error is what the error says, unless it is generic,
and the cause has a text. -/
def Reclassifies (history : History) (error : ClassifiedError) : Prop :=
  error.variant ≠ .generic →
    (∃ failureText, (history.failure error.cause).text = .ok failureText) ∧
      history.verdict error.cause = .ok (error.variant, error.statusCode)

theorem cancellation_verdict (history : History) (operation : String) :
    (history.record (.fresh (cancellation operation))).verdict history.size =
      .ok (.interrupted, none) := by
  have recorded : (history.record (.fresh (cancellation operation))).failure history.size =
      cancellation operation := history.failure_record_last _
  have interrupted : (history.record (.fresh (cancellation operation))).isInterrupted
      (some history.size) = true := by
    apply (History.is_interrupted_iff_after _ _).mpr
    refine ⟨0, history.size, rfl, ?_⟩
    rw [History.isInterrupt, recorded]
    rfl
  have plain : ((history.record (.fresh (cancellation operation))).failure
      history.size).isService = false := by
    rw [recorded]
    rfl
  rw [verdict_plain plain, interrupted, if_pos rfl]

theorem reclassifies_of_all (direct : Prop) : FactOfAll direct Reclassifies := by
  constructor
  case grow =>
    intro earlier later error closed grown recorded again special
    rw [grown.failure error.cause recorded, grown.verdict closed error.cause recorded]
    exact again special
  case classified =>
    intro history operation path id error _ made _
    obtain ⟨_, failureText, verdict, _, described, decided, rfl⟩ :=
      (history.classify_iff_verdict operation path id error).mp made
    exact ⟨⟨failureText, described⟩, decided⟩
  case cancelled =>
    intro history operation label _
    refine ⟨?_, cancellation_verdict history operation⟩
    change ∃ failureText, ((history.record _).failure history.size).text = .ok failureText
    rw [history.failure_record_last]
    exact ⟨_, rfl⟩
  case generic =>
    intro _ _ _ _ _ _ _ special
    exact absurd rfl special

theorem classify_reclassifies {history : History} {error : ClassifiedError}
    (again : Reclassifies history error) (special : error.variant ≠ .generic) (operation : String)
    {path : Path} {label : Option String} (labelled : path.label? = .ok label) :
    ∃ reclassified, history.classify operation path error.cause = .ok reclassified ∧
      reclassified.variant = error.variant ∧ reclassified.statusCode = error.statusCode := by
  obtain ⟨⟨failureText, described⟩, decided⟩ := again special
  refine ⟨.ofVerdict operation label failureText error.cause (error.variant, error.statusCode),
    ?_, rfl, rfl⟩
  rw [history.classify_eq_verdict operation path label error.cause failureText labelled described,
    decided]
  rfl

/-- However a run has come by a classified error that is not generic, classifying its cause once
more gives the same variant, with the same code, details and endpoint, and the same status. -/
theorem recorded_cause_is_reclassified_alike (direct : Prop) (start finish : Journal)
    (produced : List Classification) (closed : start.history.Closed)
    (unclassified : ∀ id, (start.failure id).isStorage = false)
    (run : Run direct start produced finish) (issued : Classification)
    (member : issued ∈ produced) (special : issued.error.variant ≠ .generic)
    (operation : String) (path : Path) (label : Option String)
    (labelled : path.label? = .ok label) :
    ∃ later again, finish.classify operation path issued.error.cause = .ok (later, again) ∧
      again.error.variant = issued.error.variant ∧
      again.error.statusCode = issued.error.statusCode := by
  have keeps := run_keeps (reclassifies_of_all direct) closed unclassified run
  obtain ⟨reclassified, made, variant, status⟩ :=
    classify_reclassifies (keeps.facts issued member) special operation labelled
  exact ⟨_, _, (finish.classify_eq_ok_iff operation path _ _).mpr ⟨reclassified, made, rfl⟩,
    variant, status⟩

def goneObjectJournal : Journal where
  history := History.empty.record (.fresh (.ofResponse "ClientError"
    ⟨none, some [("HTTPStatusCode", .integer 410)]⟩
    "An error occurred (Unknown) when calling the GetObject operation: Unknown"))
  issued := 0

theorem gone_object_journal_closed : goneObjectJournal.history.Closed :=
  History.closed_record_fresh History.closed_empty _

theorem gone_object_journal_unclassified (id : FailureId) :
    (goneObjectJournal.failure id).isStorage = false :=
  History.unclassified_record History.unclassified_empty rfl id

def goneObjectRaised : Journal :=
  (guardBlock "getObject" (.text "data/key") ⟨goneObjectJournal, .raised 0, []⟩).journal

def goneObjectWrapped : Journal :=
  goneObjectRaised.record
    ((Occurrence.fresh (.ofArguments "RuntimeError" [.text "sync"])).raisedFrom (some 1))

/-- The gone object comes out from under the failure that was raised from its storage failure, and a
cancelled future follows. Both causes, the response and the cancellation made for the future, are
classified as before. -/
theorem gone_object_and_cancellation_reclassified :
    ∃ finish gone cancelled, Run False goneObjectJournal
        [cancelled, gone, gone] finish ∧
      gone.error.kind = .notFound ∧ cancelled.error.kind = .interrupted ∧
      (∃ later again, finish.classify "headObject" .absent gone.error.cause = .ok (later, again) ∧
        again.error.variant = .notFound ∧ again.error.statusCode = some 410) ∧
      ∃ later again, finish.classify "headObject" .absent cancelled.error.cause =
          .ok (later, again) ∧ again.error.variant = .interrupted := by
  have guarded : Run False goneObjectJournal _ goneObjectRaised :=
    .guarded .started "getObject" (.text "data/key") (text_raises_unclassified _) (.raised 0) []
      Nat.zero_lt_one
  have closed := (run_keeps (reclassifies_of_all False) gone_object_journal_closed
    gone_object_journal_unclassified guarded).closed
  have grown : goneObjectRaised.Grows goneObjectWrapped := by
    refine ⟨History.extends_record _ _, History.closed_record closed _ ?_, ?_⟩
    · rintro other (fromCause | fromContext)
      · exact Option.some.inj fromCause ▸ (by decide)
      · cases fromContext
    · intro id beyond
      change ((History.record _ _).occurrence id).failure.isStorage = false
      rw [History.occurrence_record]
      split
      · rfl
      · rw [History.occurrence_outside _ id beyond]
        rfl
  have unwrapped := Run.extracted (.meanwhile guarded grown) "copyObject" .absent (.failure 2)
    (Nat.lt_succ_self 2) rfl
  have run := Run.extracted unwrapped "copyObject" .absent (.future .threadPool (.cancelled true))
    trivial rfl
  refine ⟨_, _, _, run, rfl, rfl, ?_, ?_⟩
  · obtain ⟨later, again, made, variant, status⟩ :=
      recorded_cause_is_reclassified_alike False goneObjectJournal _ _ gone_object_journal_closed
        gone_object_journal_unclassified run _ (List.mem_cons_of_mem _ List.mem_cons_self)
        (by decide) "headObject" .absent none rfl
    exact ⟨later, again, made, variant, status⟩
  · obtain ⟨later, again, made, variant, _⟩ :=
      recorded_cause_is_reclassified_alike False goneObjectJournal _ _ gone_object_journal_closed
        gone_object_journal_unclassified run _ List.mem_cons_self (by decide) "headObject" .absent
        none rfl
    exact ⟨later, again, made, variant⟩

end ObjectStore
