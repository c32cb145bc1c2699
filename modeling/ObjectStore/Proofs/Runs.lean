import ObjectStore.Proofs.Guarding
import ObjectStore.Proofs.Refusal

/-!
# Runs of the library

A run classifies, extracts, raises and guards, in any order and as often as one likes, while other
failures are recorded beside it. Only what the run has produced is raised, and the links of recorded
failures stay. A fact that classification and extraction establish of the errors they make, and that
outlives later failures, is then a fact of every classified error that the run produces, on whatever
way it came out.

A course is a run with other code in between that may do more than record failures. What it may do
is a parameter, and the same holds when that keeps the fact.
-/

namespace ObjectStore

set_option autoImplicit false

/-- Failures were recorded outside the library. They are linked to each other and to earlier ones in
any way, but none of them is a storage failure, and no earlier link was changed. -/
structure Journal.Grows (earlier later : Journal) : Prop where
  kept : earlier.history.Extends later.history
  closed : later.history.Closed
  unclassified : ∀ id, earlier.history.size ≤ id → (later.failure id).isStorage = false

def Source.Recorded (history : History) : Source → Prop
  | .future _ (.failed id) => id < history.size
  | .failure id => id < history.size
  | _ => True

def BlockEnd.Recorded (history : History) : BlockEnd → Prop
  | .completed => True
  | .raised id => id < history.size

def Path.RaisesUnclassified (path : Path) : Prop :=
  ∀ failure, path = .raising failure → failure.isStorage = false

theorem text_raises_unclassified (content : String) : (Path.text content).RaisesUnclassified := by
  intro failure same
  cases same

theorem Path.RaisesUnclassified.fault {path : Path} (raises : path.RaisesUnclassified)
    {history : History} {id : FailureId} {fault : ClassificationFault}
    (refuses : history.Refuses path id fault) :
    fault.failure.isStorage = false := by
  rcases refuses.plain_or_own with ⟨_, unclassified⟩ | own
  · exact unclassified
  · exact raises fault.failure own

def BlockRun.carried (run : BlockRun) : List Classification :=
  match run.ending with
  | .completed => []
  | .raised id => (run.journal.failure id).stored?.toList

theorem carried_anew {before : Journal} {added : Occurrence} {after : BlockRun}
    (anew : LeavesAnew before added after) : after.carried = added.failure.stored?.toList := by
  rw [BlockRun.carried, anew.ending]
  change (after.journal.history.occurrence before.nextId).failure.stored?.toList = _
  rw [anew.occurrence]

/-- The runs from a journal, with the classified errors that they have produced, the latest first.
Whether failures are also classified outside guards and extraction is a matter of the run. -/
inductive Run (direct : Prop) (start : Journal) : List Classification → Journal → Prop where
  | started : Run direct start [] start
  | meanwhile {produced : List Classification} {journal later : Journal}
      (earlier : Run direct start produced journal) (grown : journal.Grows later) :
      Run direct start produced later
  | classified {produced : List Classification} {journal later : Journal} {issued : Classification}
      (earlier : Run direct start produced journal) (allowed : direct)
      (operation : String) (path : Path) (id : FailureId) (recorded : id < journal.history.size)
      (made : journal.classify operation path id = .ok (later, issued)) :
      Run direct start (issued :: produced) later
  | extracted {produced : List Classification} {journal later : Journal} {issued : Classification}
      (earlier : Run direct start produced journal)
      (operation : String) (path : Path) (source : Source)
      (recorded : source.Recorded journal.history)
      (made : journal.extract operation path source = .ok (later, issued)) :
      Run direct start (issued :: produced) later
  | raised {produced : List Classification} {journal : Journal}
      (earlier : Run direct start produced journal) (issued : Classification)
      (member : issued ∈ produced) (handled : Option FailureId)
      (scope : ∀ id, handled = some id → id < journal.history.size) :
      Run direct start produced (journal.raise issued handled).1
  | guarded {produced : List Classification} {journal : Journal}
      (earlier : Run direct start produced journal) (operation : String) (path : Path)
      (raises : path.RaisesUnclassified) (ending : BlockEnd) (log : List LogRecord)
      (recorded : ending.Recorded journal.history) :
      Run direct start
        ((guardBlock operation path ⟨journal, ending, log⟩).carried ++ produced)
        (guardBlock operation path ⟨journal, ending, log⟩).journal

inductive LibraryCall (direct : Prop) (produced : List Classification) (journal : Journal) :
    List Classification → Journal → Prop where
  | classified {later : Journal} {issued : Classification} (allowed : direct)
      (operation : String) (path : Path) (id : FailureId) (recorded : id < journal.history.size)
      (made : journal.classify operation path id = .ok (later, issued)) :
      LibraryCall direct produced journal [issued] later
  | extracted {later : Journal} {issued : Classification} (operation : String) (path : Path)
      (source : Source) (recorded : source.Recorded journal.history)
      (made : journal.extract operation path source = .ok (later, issued)) :
      LibraryCall direct produced journal [issued] later
  | raised (issued : Classification) (member : issued ∈ produced) (handled : Option FailureId)
      (scope : ∀ id, handled = some id → id < journal.history.size) :
      LibraryCall direct produced journal [] (journal.raise issued handled).1
  | guarded (operation : String) (path : Path) (raises : path.RaisesUnclassified)
      (ending : BlockEnd) (log : List LogRecord) (recorded : ending.Recorded journal.history) :
      LibraryCall direct produced journal (guardBlock operation path ⟨journal, ending, log⟩).carried
        (guardBlock operation path ⟨journal, ending, log⟩).journal

/-- Calls of the library with other code between them, and the classified errors that the calls have
given, the latest first. -/
inductive Course (between : List Classification → Journal → Journal → Prop) (direct : Prop)
    (start : Journal) : List Classification → Journal → Prop where
  | started : Course between direct start [] start
  | meanwhile {produced : List Classification} {journal later : Journal}
      (earlier : Course between direct start produced journal)
      (happened : between produced journal later) : Course between direct start produced later
  | called {produced given : List Classification} {journal later : Journal}
      (earlier : Course between direct start produced journal)
      (call : LibraryCall direct produced journal given later) :
      Course between direct start (given ++ produced) later

theorem Run.course {direct : Prop} {start finish : Journal} {produced : List Classification}
    (run : Run direct start produced finish) :
    Course (fun _ => Journal.Grows) direct start produced finish := by
  induction run with
  | started => exact .started
  | meanwhile _ grown ih => exact ih.meanwhile grown
  | classified _ allowed operation path id recorded made ih =>
      exact ih.called (.classified allowed operation path id recorded made)
  | extracted _ operation path source recorded made ih =>
      exact ih.called (.extracted operation path source recorded made)
  | raised _ issued member handled scope ih => exact ih.called (.raised issued member handled scope)
  | guarded _ operation path raises ending log recorded ih =>
      exact ih.called (.guarded operation path raises ending log recorded)

theorem History.unwraps_recorded {history : History} (closed : history.Closed) {source : Source}
    (recorded : source.Recorded history) {id : FailureId}
    (unwraps : history.Unwraps source (some id)) : id < history.size := by
  cases unwraps with
  | failed => exact recorded
  | itself => exact recorded
  | wrapped wrapper _ _ _ linked _ => exact closed wrapper recorded id (Or.inl linked)
  | alone => exact recorded

/-- What a run keeps of its history, beside a fact of every classified error that it has produced:
no link leads out of the history, no cause is missing, and storage failures carry only what was
produced. -/
structure RunKeeps (fact : History → ClassifiedError → Prop) (produced : List Classification)
    (history : History) : Prop where
  closed : history.Closed
  recorded : ∀ issued ∈ produced, issued.error.cause < history.size
  facts : ∀ issued ∈ produced, fact history issued.error
  carried : ∀ id issued, (history.failure id).stored? = some issued → issued ∈ produced

/-- What has to be shown of a fact so that it is one of all that a run produces: it outlives every
failure that is recorded later, and it is true of what classification and extraction make
themselves. -/
structure FactOfAll (direct : Prop) (fact : History → ClassifiedError → Prop) : Prop where
  grow : ∀ {earlier later : History} {error : ClassifiedError}, earlier.Closed →
    earlier.Extends later → error.cause < earlier.size → fact earlier error → fact later error
  classified : ∀ {history : History} {operation : String} {path : Path} {id : FailureId}
    {error : ClassifiedError}, direct ∨ (history.failure id).isFromClient = true →
    history.classify operation path id = .ok error → fact history error
  cancelled : ∀ (history : History) (operation : String) (label : Option String),
    fact (history.record (.fresh (cancellation operation)))
      (cancelledError operation label history.size)
  generic : ∀ (history : History) (operation : String) (label : Option String) (id : FailureId)
    (message : String), (history.failure id).isFromClient = false →
    (history.failure id).isStorage = false →
    fact history (genericError operation label id message)

namespace RunKeeps

variable {direct : Prop} {fact : History → ClassifiedError → Prop}
  {produced : List Classification}

/-- Of the history itself only the failures count; links do as far as they count for the fact. -/
theorem outlast {history later : History} (keeps : RunKeeps fact produced history)
    (size_le : history.size ≤ later.size)
    (failures : ∀ id, id < history.size → later.failure id = history.failure id)
    (closed : later.Closed)
    (lasting : ∀ error, error.cause < history.size → fact history error → fact later error)
    (added : ∀ id, history.size ≤ id → ∀ issued, (later.failure id).stored? = some issued →
      issued ∈ produced) : RunKeeps fact produced later := by
  refine ⟨closed, ?_, ?_, ?_⟩
  · intro issued member
    exact Nat.lt_of_lt_of_le (keeps.recorded issued member) size_le
  · intro issued member
    exact lasting issued.error (keeps.recorded issued member) (keeps.facts issued member)
  · intro id issued held
    by_cases recorded : id < history.size
    · rw [failures id recorded] at held
      exact keeps.carried id issued held
    · exact added id (Nat.le_of_not_lt recorded) issued held

theorem grow {history later : History} (keeps : RunKeeps fact produced history)
    (rules : FactOfAll direct fact) (grown : history.Extends later) (closed : later.Closed)
    (added : ∀ id, history.size ≤ id → ∀ issued, (later.failure id).stored? = some issued →
      issued ∈ produced) : RunKeeps fact produced later := by
  apply keeps.outlast grown.size_le grown.failure closed ?_ added
  intro error recorded
  exact rules.grow keeps.closed grown recorded

theorem produce {history : History} (keeps : RunKeeps fact produced history)
    {issued : Classification} (recorded : issued.error.cause < history.size)
    (facts : fact history issued.error) : RunKeeps fact (issued :: produced) history := by
  refine ⟨keeps.closed, ?_, ?_, ?_⟩
  · exact List.forall_mem_cons.mpr ⟨recorded, keeps.recorded⟩
  · exact List.forall_mem_cons.mpr ⟨facts, keeps.facts⟩
  · intro id other held
    exact List.mem_cons_of_mem issued (keeps.carried id other held)

theorem produce_carried {history : History} (keeps : RunKeeps fact produced history)
    {id : FailureId} {issued : Classification}
    (held : (history.failure id).stored? = some issued) :
    RunKeeps fact (issued :: produced) history := by
  have member := keeps.carried id issued held
  exact keeps.produce (keeps.recorded issued member) (keeps.facts issued member)

/-- A new failure breaks nothing when its links lead to recorded failures and when it carries, if
anything, what was produced. -/
theorem record {history : History} (keeps : RunKeeps fact produced history)
    (rules : FactOfAll direct fact) (added : Occurrence)
    (linked : ∀ other, added.cause = some other ∨ added.context = some other →
      other < history.size)
    (carries : ∀ issued, added.failure.stored? = some issued → issued ∈ produced) :
    RunKeeps fact produced (history.record added) := by
  apply keeps.grow rules (history.extends_record added)
    (History.closed_record keeps.closed added linked)
  intro id beyond issued held
  rw [History.failure, history.occurrence_record added id] at held
  split at held
  · exact carries issued held
  · rw [history.occurrence_outside id beyond] at held
    cases held

theorem classified {journal later : Journal} {operation : String} {path : Path} {id : FailureId}
    {issued : Classification} (keeps : RunKeeps fact produced journal.history)
    (rules : FactOfAll direct fact) (recorded : id < journal.history.size)
    (allowed : direct ∨ (journal.failure id).isFromClient = true)
    (made : journal.classify operation path id = .ok (later, issued)) :
    RunKeeps fact (issued :: produced) later.history := by
  obtain ⟨_, cause⟩ := Journal.classify_keeps made
  obtain ⟨error, decided, handedOut⟩ :=
    (journal.classify_eq_ok_iff operation path id _).mp made
  cases handedOut
  apply keeps.produce
  · rw [cause]
    exact recorded
  · exact rules.classified allowed decided

theorem extracted {journal later : Journal} {operation : String} {path : Path} {source : Source}
    {issued : Classification} (keeps : RunKeeps fact produced journal.history)
    (rules : FactOfAll direct fact) (recorded : source.Recorded journal.history)
    (made : journal.extract operation path source = .ok (later, issued)) :
    RunKeeps fact (issued :: produced) later.history := by
  obtain ⟨label, found, _, unwraps, extracts⟩ :=
    (journal.extract_eq_ok_iff operation path source (later, issued)).mp made
  cases extracts with
  | cancelled =>
      -- The cancellation is recorded first, so that the error has a cause to point at.
      have added : RunKeeps fact produced
          (journal.history.record (.fresh (cancellation operation))) := by
        apply keeps.record rules
        · rintro other (fromCause | fromContext)
          · cases fromCause
          · cases fromContext
        · intro issued held
          cases held
      apply added.produce
      · exact Nat.lt_of_lt_of_eq (Nat.lt_succ_self _) (journal.history.size_record _).symm
      · exact rules.cancelled journal.history operation label
  | classified id _ client classified =>
      exact keeps.classified rules (History.unwraps_recorded keeps.closed recorded unwraps)
        (Or.inr client) classified
  | stored id _ _ held => exact keeps.produce_carried held
  | generic id failureText foreign unclassified _ =>
      apply keeps.produce
      · exact History.unwraps_recorded keeps.closed recorded unwraps
      · exact rules.generic journal.history operation label id _ foreign unclassified

theorem raised {journal : Journal} (keeps : RunKeeps fact produced journal.history)
    (rules : FactOfAll direct fact) {issued : Classification} (member : issued ∈ produced)
    {handled : Option FailureId}
    (scope : ∀ id, handled = some id → id < journal.history.size) :
    RunKeeps fact produced (journal.raise issued handled).1.history := by
  apply keeps.record rules
  · rintro other (fromCause | fromContext)
    · rw [← Option.some.inj fromCause]
      exact keeps.recorded issued member
    · exact scope other fromContext
  · intro other held
    obtain rfl : issued = other := Option.some.inj held
    exact member

theorem guarded_classified {run after : BlockRun} {operation : String} {path : Path}
    {id : FailureId} {classified : Journal} {issued : Classification}
    (keeps : RunKeeps fact produced run.journal.history) (rules : FactOfAll direct fact)
    (recorded : id < run.journal.history.size)
    (reported : (run.journal.failure id).isFromClient = true)
    (made : run.journal.classify operation path id = .ok (classified, issued))
    (leaves : LeavesClassified operation run id issued after) :
    RunKeeps fact (after.carried ++ produced) after.journal.history := by
  obtain ⟨failure, anew, carries, _⟩ := leaves.anew
  have held := carries.held
  have keepsIssued := keeps.classified rules recorded (Or.inr reported) made
  rw [(Journal.classify_keeps made).1] at keepsIssued
  rw [carried_anew anew, anew.history, held]
  apply keepsIssued.record rules
  · rintro other (fromCause | fromContext)
    · exact Option.some.inj fromCause ▸ recorded
    · exact Option.some.inj fromContext ▸ recorded
  · intro other carries
    rw [held] at carries
    exact Option.some.inj carries ▸ List.mem_cons_self

theorem guarded_faulty {run after : BlockRun} {id : FailureId} {fault : ClassificationFault}
    (keeps : RunKeeps fact produced run.journal.history) (rules : FactOfAll direct fact)
    (recorded : id < run.journal.history.size)
    (unclassified : fault.failure.isStorage = false) (leaves : LeavesFaulty run id fault after) :
    RunKeeps fact (after.carried ++ produced) after.journal.history := by
  have unstored := (stored_none_iff fault.failure).mpr unclassified
  rw [carried_anew leaves.anew, leaves.anew.history, unstored]
  apply keeps.record rules
  · rintro other (fromCause | fromContext)
    · cases fromCause
    · exact Option.some.inj fromContext ▸ recorded
  · intro other carries
    rw [unstored] at carries
    cases carries

theorem guarded {run : BlockRun} (operation : String) {path : Path}
    (raises : path.RaisesUnclassified) (keeps : RunKeeps fact produced run.journal.history)
    (rules : FactOfAll direct fact) (recorded : run.ending.Recorded run.journal.history) :
    RunKeeps fact ((guardBlock operation path run).carried ++ produced)
      (guardBlock operation path run).journal.history := by
  cases ending : run.ending with
  | completed =>
      rw [guard_block_completed operation path run ending, BlockRun.carried, ending]
      exact keeps
  | raised id =>
      rw [ending] at recorded
      cases reported : (run.journal.failure id).isFromClient with
      | false =>
          -- What passes may be a storage failure, and then it carries what was produced before.
          rw [guard_block_passes operation path run id ending reported, BlockRun.carried, ending]
          change RunKeeps fact ((run.journal.failure id).stored?.toList ++ produced) _
          cases held : (run.journal.failure id).stored? with
          | none => exact keeps
          | some issued => exact keeps.produce_carried held
      | true =>
          cases made : run.journal.classify operation path id with
          | error fault =>
              have refuses := (run.journal.classify_eq_error_iff operation path id fault).mp made
              exact keeps.guarded_faulty rules recorded (raises.fault refuses)
                (guard_block_faulty operation path run id fault ending reported made)
          | ok result =>
              exact keeps.guarded_classified rules recorded reported made
                (guard_block_classified operation path run id _ _ ending reported made)

theorem called {journal later : Journal} {given : List Classification}
    (keeps : RunKeeps fact produced journal.history) (rules : FactOfAll direct fact)
    (call : LibraryCall direct produced journal given later) :
    RunKeeps fact (given ++ produced) later.history := by
  cases call with
  | classified allowed operation path id recorded made =>
      exact keeps.classified rules recorded (Or.inl allowed) made
  | extracted operation path source recorded made => exact keeps.extracted rules recorded made
  | raised issued member handled scope => exact keeps.raised rules member scope
  | guarded operation path raises ending log recorded =>
      exact RunKeeps.guarded operation raises keeps rules recorded

end RunKeeps

theorem course_keeps {between : List Classification → Journal → Journal → Prop} {direct : Prop}
    {fact : History → ClassifiedError → Prop} (rules : FactOfAll direct fact)
    (lasting : ∀ {produced : List Classification} {journal later : Journal},
      between produced journal later → RunKeeps fact produced journal.history →
        RunKeeps fact produced later.history)
    {start finish : Journal} {produced : List Classification} (closed : start.history.Closed)
    (unclassified : ∀ id, (start.failure id).isStorage = false)
    (course : Course between direct start produced finish) :
    RunKeeps fact produced finish.history := by
  induction course with
  | started =>
      refine ⟨closed, by simp, by simp, ?_⟩
      intro id issued held
      have unstored := (stored_none_iff _).mpr (unclassified id)
      rw [Journal.failure, held] at unstored
      cases unstored
  | meanwhile _ happened ih => exact lasting happened ih
  | called _ call ih => exact ih.called rules call

/-- Every step keeps what a run keeps, so every run does that starts without storage failures. -/
theorem run_keeps {direct : Prop} {fact : History → ClassifiedError → Prop}
    (rules : FactOfAll direct fact) {start finish : Journal} {produced : List Classification}
    (closed : start.history.Closed)
    (unclassified : ∀ id, (start.failure id).isStorage = false)
    (run : Run direct start produced finish) : RunKeeps fact produced finish.history := by
  apply course_keeps rules ?_ closed unclassified run.course
  intro _ _ later grown keeps
  apply keeps.grow rules grown.kept grown.closed
  intro id beyond issued held
  have unstored := (stored_none_iff _).mpr (grown.unclassified id beyond)
  rw [Journal.failure, held] at unstored
  cases unstored

end ObjectStore
