import ObjectStore.Proofs.Extraction

/-!
# Raising a classified failure again and again

A storage failure is raised from the failure that was classified, so its chain is that failure's
chain with one link in front. Classifying and raising it once more puts another link in front, and
so on. No layer hides an interruption and none adds one, in whatever handlers the layers are raised
and however the links below them run in circles.
-/

namespace ObjectStore

set_option autoImplicit false

namespace Journal

theorem extends_raise (journal : Journal) (issued : Classification)
    (handled : Option FailureId) :
    journal.history.Extends (journal.raise issued handled).1.history :=
  journal.history.extends_record _

theorem raised_recorded (journal : Journal) (issued : Classification)
    (handled : Option FailureId) :
    journal.nextId < (journal.raise issued handled).1.history.size :=
  Nat.lt_of_lt_of_eq (Nat.lt_succ_self _) (journal.history.size_record _).symm

theorem closed_raise {journal : Journal} (closed : journal.history.Closed)
    (issued : Classification) (handled : Option FailureId)
    (recorded : issued.error.cause < journal.history.size)
    (scope : ∀ id, handled = some id → id < journal.history.size) :
    (journal.raise issued handled).1.history.Closed := by
  apply History.closed_record closed
  rintro other (fromCause | fromContext)
  · exact Option.some.inj fromCause ▸ recorded
  · exact scope other fromContext

theorem raised_occurrence (journal : Journal) (issued : Classification)
    (handled : Option FailureId) :
    (journal.raise issued handled).1.history.occurrence journal.nextId = {
      failure := .ofClassification issued
      cause := some issued.error.cause
      context := handled
      suppressContext := true } := by
  change (journal.history.record _).occurrence journal.history.size = _
  rw [journal.history.occurrence_record, if_pos rfl]

theorem raised_next (journal : Journal) (issued : Classification)
    (handled : Option FailureId) :
    (journal.raise issued handled).1.history.next? journal.nextId =
      some issued.error.cause := by
  rw [History.next?, journal.raised_occurrence issued handled]
  rfl

theorem raised_ordinary (journal : Journal) (issued : Classification)
    (handled : Option FailureId) :
    (journal.raise issued handled).1.history.isInterrupt journal.nextId = false := by
  change ((journal.raise issued handled).1.failure journal.nextId).isInterrupt = false
  rw [journal.failure_raise issued handled]
  rfl

theorem raised_is_interrupted {journal : Journal} (closed : journal.history.Closed)
    (issued : Classification) (handled : Option FailureId)
    (recorded : issued.error.cause < journal.history.size) :
    (journal.raise issued handled).1.history.isInterrupted (some journal.nextId) =
      journal.history.isInterrupted (some issued.error.cause) := by
  rw [History.is_interrupted_link _ journal.nextId issued.error.cause
    (journal.raised_ordinary issued handled) (journal.raised_next issued handled)]
  exact (journal.extends_raise issued handled).is_interrupted closed _ recorded

/-- An interruption of the cause is seen through the raised failure in any history. -/
theorem raised_is_interrupted_of (journal : Journal) (issued : Classification)
    (handled : Option FailureId)
    (interrupted : journal.history.isInterrupted (some issued.error.cause) = true) :
    (journal.raise issued handled).1.history.isInterrupted (some journal.nextId) = true := by
  rw [History.is_interrupted_link _ journal.nextId issued.error.cause
    (journal.raised_ordinary issued handled) (journal.raised_next issued handled)]
  exact (journal.extends_raise issued handled).is_interrupted_of _ interrupted

/-- Classification finds an interruption only in the chain of what it classifies. -/
theorem interrupted_of_classify {journal later : Journal} {operation : String} {path : Path}
    {id : FailureId} {issued : Classification}
    (made : journal.classify operation path id = .ok (later, issued))
    (kind : issued.error.kind = .interrupted) :
    later.history.isInterrupted (some issued.error.cause) = true := by
  obtain ⟨same, cause⟩ := classify_keeps made
  obtain ⟨error, classified, handedOut⟩ :=
    (journal.classify_eq_ok_iff operation path id _).mp made
  cases handedOut
  rw [same, cause]
  exact ((journal.history.classify_kind operation path id error classified).1.mp kind).2

/-- A storage failure can always be classified when the path has a label, and its chain decides
the kind. -/
theorem classify_storage (journal : Journal) (operation : String) (path : Path)
    (label : Option String) (id : FailureId) (labelled : path.label? = .ok label)
    {carried : Classification} (carries : (journal.failure id).Carries carried) :
    ∃ later issued, journal.classify operation path id = .ok (later, issued) ∧
      issued.error.kind =
        if journal.history.isInterrupted (some id) then .interrupted else .client := by
  have plain := ((foreign_iff _).mp carries.foreign).1
  have made := journal.history.classify_plain operation path label id carried.error.message
    labelled carries.told plain
  refine ⟨_, _, (journal.classify_eq_ok_iff operation path id _).mpr ⟨_, made, rfl⟩, ?_⟩
  cases interrupted : journal.history.isInterrupted (some id) <;>
    simp [ClassifiedError.kind, History.plainError, interrupted, Variant.kind]

/-- The storage failures that come of classifying a failure, raising the result, classifying what
was raised, and so on, the latest first. Every layer may be raised while some failure is handled. -/
inductive Reraised (start : Journal) (first : FailureId) : List FailureId → Journal → Prop where
  | unraised : Reraised start first [] start
  | again {raised : List FailureId} {journal classified : Journal} {issued : Classification}
      (earlier : Reraised start first raised journal) (operation : String) (path : Path)
      (made : journal.classify operation path (raised.headD first) = .ok (classified, issued))
      (handled : Option FailureId)
      (scope : ∀ id, handled = some id → id < journal.history.size) :
      Reraised start first ((classified.raise issued handled).2 :: raised)
        (classified.raise issued handled).1

/-- What every layer keeps. Closedness is what lets the older links stand while a record is added
behind them. -/
structure LayersKeep (start : History) (first : FailureId) (raised : List FailureId)
    (history : History) : Prop where
  closed : history.Closed
  recorded : ∀ id ∈ first :: raised, id < history.size
  alike : ∀ id ∈ first :: raised,
    history.isInterrupted (some id) = start.isInterrupted (some first)
  stored : ∀ id ∈ raised, ∃ carried, (history.failure id).Carries carried

theorem layers_keep_raise {start : History} {first : FailureId} {raised : List FailureId}
    {journal : Journal} (keep : LayersKeep start first raised journal.history)
    (issued : Classification) (cause : issued.error.cause = raised.headD first)
    (handled : Option FailureId)
    (scope : ∀ id, handled = some id → id < journal.history.size) :
    LayersKeep start first (journal.nextId :: raised)
      (journal.raise issued handled).1.history := by
  have latest : raised.headD first ∈ first :: raised := by
    cases raised <;> simp
  have causeRecorded : issued.error.cause < journal.history.size := by
    rw [cause]
    exact keep.recorded _ latest
  have grown := journal.extends_raise issued handled
  have split : ∀ id, id ∈ first :: journal.nextId :: raised →
      id = journal.nextId ∨ id ∈ first :: raised := by
    intro id member
    simp only [List.mem_cons] at member ⊢
    rcases member with same | same | earlier
    · exact Or.inr (Or.inl same)
    · exact Or.inl same
    · exact Or.inr (Or.inr earlier)
  refine ⟨closed_raise keep.closed issued handled causeRecorded scope, ?_, ?_, ?_⟩
  · intro id member
    rcases split id member with rfl | earlier
    · exact journal.raised_recorded issued handled
    · exact Nat.lt_of_lt_of_le (keep.recorded id earlier) grown.size_le
  · intro id member
    rcases split id member with rfl | earlier
    · rw [raised_is_interrupted keep.closed issued handled causeRecorded, cause]
      exact keep.alike _ latest
    · rw [grown.is_interrupted keep.closed id (keep.recorded id earlier)]
      exact keep.alike id earlier
  · intro id member
    rcases List.mem_cons.mp member with rfl | earlier
    · refine ⟨issued, ?_⟩
      change ((journal.raise issued handled).1.failure journal.nextId).Carries issued
      rw [journal.failure_raise issued handled]
      exact carries_of_classification issued
    · rw [grown.failure id (keep.recorded id (List.mem_cons_of_mem _ earlier))]
      exact keep.stored id earlier

theorem reraised_keeps {start finish : Journal} {first : FailureId}
    {raised : List FailureId} (closed : start.history.Closed)
    (recorded : first < start.history.size) (run : start.Reraised first raised finish) :
    LayersKeep start.history first raised finish.history := by
  induction run with
  | unraised =>
      constructor
      · exact closed
      · intro id member
        rw [List.mem_singleton.mp member]
        exact recorded
      · intro id member
        rw [List.mem_singleton.mp member]
      · simp
  | again _ operation path made handled scope ih =>
      -- Handing the classified error out leaves the history alone, so the layer is one record.
      obtain ⟨same, cause⟩ := classify_keeps made
      rw [← same] at ih scope
      exact layers_keep_raise ih _ cause handled scope

/-- Every storage failure of a run of layers is as interrupted as the failure that the first layer
classified, and is classified accordingly. An interruption that classification or extraction finds
itself is seen through the storage failure raised for it, also when more was recorded meanwhile. -/
theorem interruption_survives_raising :
    (∀ (start finish : Journal) (first : FailureId) (raised : List FailureId),
      start.history.Closed → first < start.history.size →
      start.Reraised first raised finish →
      finish.history.isInterrupted (some first) = start.history.isInterrupted (some first) ∧
      ∀ id ∈ raised,
        finish.history.isInterrupted (some id) = start.history.isInterrupted (some first) ∧
        ∀ operation path label, path.label? = .ok label →
          ∃ later issued, finish.classify operation path id = .ok (later, issued) ∧
            issued.error.kind =
              if start.history.isInterrupted (some first) then .interrupted else .client) ∧
    (∀ (journal made later : Journal) (operation : String) (path : Path) (id : FailureId)
        (issued : Classification) (handled : Option FailureId),
      journal.classify operation path id = .ok (made, issued) →
      issued.error.kind = .interrupted → made.history.Extends later.history →
      (later.raise issued handled).1.history.isInterrupted
        (some (later.raise issued handled).2) = true) ∧
    ∀ (journal made later : Journal) (operation : String) (path : Path) (source : Source)
        (issued : Classification) (handled : Option FailureId),
      journal.extract operation path source = .ok (made, issued) →
      (∀ id, journal.history.Unwraps source (some id) →
        (journal.failure id).isFromClient = false → (journal.failure id).isStorage = false) →
      issued.error.kind = .interrupted → made.history.Extends later.history →
      (later.raise issued handled).1.history.isInterrupted
        (some (later.raise issued handled).2) = true := by
  refine ⟨?_, ?_, ?_⟩
  · intro start finish first raised closed recorded run
    have keep := reraised_keeps closed recorded run
    refine ⟨keep.alike first List.mem_cons_self, ?_⟩
    intro id member
    have alike := keep.alike id (List.mem_cons_of_mem _ member)
    constructor
    · exact alike
    · intro operation path label labelled
      obtain ⟨carried, carries⟩ := keep.stored id member
      have classified := finish.classify_storage operation path label id labelled carries
      rw [alike] at classified
      exact classified
  · intro journal made later operation path id issued handled classified kind grown
    apply later.raised_is_interrupted_of issued handled
    apply grown.is_interrupted_of
    exact interrupted_of_classify classified kind
  · intro journal made later operation path source issued handled extracted own kind grown
    apply later.raised_is_interrupted_of issued handled
    apply grown.is_interrupted_of
    obtain ⟨_, found, _, unwraps, extracts⟩ :=
      (journal.extract_eq_ok_iff operation path source (made, issued)).mp extracted
    cases extracts with
    | cancelled =>
        apply (History.is_interrupted_iff_after _ _).mpr
        refine ⟨0, journal.nextId, rfl, ?_⟩
        change ((journal.record _).failure journal.nextId).isInterrupt = true
        rw [journal.failure_recorded]
        rfl
    | classified id _ _ classified => exact interrupted_of_classify classified kind
    | stored id _ foreign held =>
        have stored := (stored_iff_is_storage _).mpr ⟨_, held⟩
        rw [own id unwraps foreign] at stored
        cases stored
    | generic => cases kind

/-- A missing object reported while a keystroke was handled, which itself is handled by the
report: the links run in a circle. -/
def tangledJournal : Journal where
  history := ⟨#[
    { failure := .ofResponse "ClientError" ⟨none, some [("HTTPStatusCode", .integer 404)]⟩ "missing"
      cause := some 1
      context := none
      suppressContext := true },
    { failure := .ofArguments "KeyboardInterrupt" [] [.keyboardInterrupt]
      cause := none
      context := some 0
      suppressContext := false }]⟩
  issued := 0

theorem tangled_journal_closed : tangledJournal.history.Closed := by
  intro id recorded other link
  have cases : id = 0 ∨ id = 1 := by
    change id < 2 at recorded
    omega
  change other < 2
  rcases cases with rfl | rfl
  · rcases link with same | same
    · exact Option.some.inj same ▸ (by decide)
    · cases same
  · rcases link with same | same
    · cases same
    · exact Option.some.inj same ▸ (by decide)

/-- Two layers over the missing object, the second raised while the first is handled, and a
cancelled future. -/
theorem tangled_interruption_survives :
    tangledJournal.history.Closed ∧ 0 < tangledJournal.history.size ∧
      (∃ finish first second, tangledJournal.Reraised 0 [second, first] finish ∧
        finish.history.isInterrupted (some second) = true) ∧
      ∃ made issued, tangledJournal.extract "getObject" .absent
          (.future .threadPool (.cancelled true)) = .ok (made, issued) ∧
        (made.raise issued none).1.history.isInterrupted (some (made.raise issued none).2) =
          true := by
  have recorded : 0 < tangledJournal.history.size := by decide
  have interrupted : tangledJournal.history.isInterrupted (some 0) = true :=
    (tangledJournal.history.is_interrupted_iff_after 0).mpr ⟨1, 1, rfl, rfl⟩
  obtain ⟨middle, issued, made⟩ : ∃ middle issued,
      tangledJournal.classify "headObject" .absent 0 = .ok (middle, issued) := ⟨_, _, rfl⟩
  have one := Reraised.again .unraised "headObject" .absent made none (by simp)
  obtain ⟨later, reissued, remade, _⟩ := (middle.raise issued none).1.classify_storage
    "getObject" .absent none middle.nextId rfl (by
      rw [middle.failure_raise issued none]
      exact carries_of_classification issued)
  have two := Reraised.again one "getObject" .absent remade (some middle.nextId) (by
    intro id same
    rw [← Option.some.inj same]
    exact middle.raised_recorded issued none)
  have layers := (interruption_survives_raising.1 tangledJournal _ 0 _
    tangled_journal_closed recorded two).2 _ List.mem_cons_self
  rw [interrupted] at layers
  refine ⟨tangled_journal_closed, recorded, ⟨_, _, _, two, layers.1⟩, _, _, rfl, ?_⟩
  apply interruption_survives_raising.2.2 tangledJournal _ _ "getObject" .absent
    (.future .threadPool (.cancelled true)) _ none rfl
  · intro id unwraps
    cases unwraps
  · rfl
  · exact History.extends_refl _

end Journal

end ObjectStore
