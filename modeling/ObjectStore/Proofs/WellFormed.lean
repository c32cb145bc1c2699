import ObjectStore.Proofs.HandingOn
import ObjectStore.Proofs.Runs

/-!
# What the variant of a classified error promises

A caller that looks at the variant of a classified error may rely on its status, on its code and
details, and on what kind of failure its cause is. All of this is settled where the error is made
and can be read off its cause, so it holds of every error that the library gives, on whatever way it
was carried since.
-/

namespace ObjectStore

set_option autoImplicit false

def ErrorKind.rejections : List ErrorKind :=
  [.accessDenied, .notFound, .range, .redirect, .service, .genericService]

def ErrorKind.AllowsStatus : ErrorKind → Option Int → Prop
  | .accessDenied, status => status = some 401 ∨ status = some 403
  | .notFound, status => status = some 404 ∨ status = some 410
  | .range, status => status = some 416
  | .redirect, status => status = some 301
  | .service, status =>
      status ∉ [some 301, some 401, some 403, some 404, some 410, some 416]
  | .genericService, status => status ∉ [some 401, some 403, some 404, some 410, some 416]
  | .client, status => status = none
  | .interrupted, status => status = none
  | .generic, status => status = none

/-- What a caller may rely on that looks at the variant. The code of a service error has a character
that is no digit. -/
structure ClassifiedError.WellFormed (history : History) (error : ClassifiedError) : Prop where
  status : error.kind.AllowsStatus error.statusCode
  code : ∀ code details, error.variant = .service code details →
    ∃ text, code = some text ∧ text ≠ "" ∧ ∃ c ∈ text.toList, Text.isDigit c = false
  details : ∀ code details, error.variant = .service code details →
    ∀ key text, (key, text) ∈ details → key ≠ "Code" ∧ key ≠ "Message"
  cause : (history.failure error.cause).isService = true ↔ error.kind ∈ ErrorKind.rejections

inductive ClassifiedError.Origin (history : History) (error : ClassifiedError) : Prop where
  | answered (response : Response) (body : Option Record)
      (found : (history.failure error.cause).response = some response)
      (read : response.body? = .ok body)
      (chosen : responseVariant (.ofStatus response.status?) body = .ok error.variant)
      (status : error.statusCode = response.status?)
  | unanswered (plain : (history.failure error.cause).isService = false)
      (variant : error.variant = .clientSide ∨ error.variant = .interrupted ∨
        error.variant = .generic)
      (status : error.statusCode = none)

/-- Links have no part in it. -/
theorem ClassifiedError.Origin.outlast {earlier later : History} {error : ClassifiedError}
    (origin : error.Origin earlier)
    (same : later.failure error.cause = earlier.failure error.cause) : error.Origin later := by
  cases origin with
  | answered response body found read chosen status =>
      rw [← same] at found
      exact .answered response body found read chosen status
  | unanswered plain variant status =>
      rw [← same] at plain
      exact .unanswered plain variant status

theorem origin_of_all (direct : Prop) :
    FactOfAll direct (fun history error => error.Origin history) := by
  constructor
  case grow =>
    intro earlier later error _ grown recorded origin
    exact origin.outlast (grown.failure error.cause recorded)
  case classified =>
    intro history operation path id error _ made
    obtain ⟨label, failureText, _, _, cases⟩ :=
      (history.classify_eq_ok_iff operation path id error).mp made
    rcases cases with ⟨plain, rfl⟩ | ⟨response, body, variant, found, read, chosen, rfl⟩
    · refine .unanswered ((not_service_iff _).mpr plain) ?_ rfl
      cases interrupted : history.isInterrupted (some id) with
      | true => simp [History.plainError, interrupted]
      | false => simp [History.plainError, interrupted]
    · exact .answered response body found read chosen rfl
  case cancelled =>
    intro history operation label
    refine .unanswered ?_ (Or.inr (Or.inl rfl)) rfl
    change ((history.record _).failure history.size).isService = false
    rw [history.failure_record_last]
    rfl
  case generic =>
    intro history operation label id message foreign _
    obtain ⟨plain, _⟩ := (foreign_iff _).mp foreign
    exact .unanswered plain (Or.inr (Or.inr rfl)) rfl

theorem meaning_kind_rejects (meaning : StatusMeaning) (hasBody : Bool) :
    meaning.kind hasBody ∈ ErrorKind.rejections := by
  cases meaning <;> cases hasBody <;> decide

theorem meaning_kind_allows_status (status : Option Int) (hasBody : Bool) :
    ((StatusMeaning.ofStatus status).kind hasBody).AllowsStatus status := by
  have table := kind_by_status status hasBody
  have rejects := meaning_kind_rejects (.ofStatus status) hasBody
  generalize (StatusMeaning.ofStatus status).kind hasBody = kind at table rejects
  cases kind with
  | accessDenied => exact table.accessDenied.mp rfl
  | notFound => exact table.notFound.mp rfl
  | range => exact table.range.mp rfl
  | redirect => exact (table.redirect.mp rfl).1
  | service => exact (table.service.mp rfl).1
  | genericService => exact (table.genericService.mp rfl).1
  | client => exact absurd rejects (by decide)
  | interrupted => exact absurd rejects (by decide)
  | generic => exact absurd rejects (by decide)

theorem details_keys {entries : Record} {details : Details}
    (made : detailsOf entries = .ok details) :
    ∀ key text, (key, text) ∈ details → isLeadingKey key = false := by
  intro key text member
  have kept : key ∈ details.map Prod.fst := List.mem_map_of_mem member
  rw [details_keys_in_order made, List.mem_filter] at kept
  simpa using kept.2

/-- A fractional number is written with some character. Every other value has its own text. -/
def Value.Written : Value → Prop
  | .float literal => literal ≠ ""
  | _ => True

theorem integer_text_nonempty {number : Int} {text : String}
    (made : integerText number = .ok text) : text ≠ "" := by
  unfold integerText Text.integerText? at made
  split at made
  · rename_i given written
    split at written
    · cases made
      rw [← Option.some.inj written]
      cases number with
      | ofNat magnitude => exact Nat.repr_ne_empty
      | negSucc magnitude => simp [toString, Int.repr]
    · cases written
  · cases made

/-- What is truthy shows as something. -/
theorem shown_nonempty {value : Value} {text : String} (written : value.Written)
    (truthy : value.truthy = true) (shown : value.shown = .ok text) : text ≠ "" := by
  cases value with
  | null => cases truthy
  | boolean truth =>
      cases truth with
      | false => cases truthy
      | true =>
          cases shown
          decide
  | integer number => exact integer_text_nonempty (Value.shown_integer number ▸ shown)
  | float literal =>
      cases shown
      exact written
  | text content =>
      cases shown
      simpa [Value.truthy] using truthy
  | bytes content =>
      cases shown
      simp [Text.quoteBytes]
  | list items =>
      obtain ⟨members, _, joined⟩ := (except_bind_eq_ok _ _ _).mp shown
      rw [← Except.ok.inj joined]
      simp
  | record entries =>
      obtain ⟨members, _, joined⟩ := (except_bind_eq_ok _ _ _).mp shown
      rw [← Except.ok.inj joined]
      simp

def Failure.CodeWritten (failure : Failure) : Prop :=
  ∀ response value, failure.response = some response →
    response.errorEntry? "Code" = some value → value.Written

theorem body_code_nonempty {response : Response} {entries : Record} {text : String}
    (written : ∀ value, response.errorEntry? "Code" = some value → value.Written)
    (present : response.HasBody entries) (shown : (Record.code entries).shown = .ok text) :
    text ≠ "" ∧ Text.isDecimal text = false := by
  obtain ⟨value, made, found, truthy, valueShown, decimal⟩ := present.code
  have entry : response.errorEntry? "Code" = some value := by
    rw [Response.errorEntry?, present.error]
    exact found
  rw [Record.code, found, Option.getD_some, valueShown] at shown
  obtain rfl : made = text := Except.ok.inj shown
  exact ⟨shown_nonempty (written value entry) truthy valueShown, decimal⟩

theorem some_character_no_digit {text : String} (nonempty : text ≠ "")
    (decimal : Text.isDecimal text = false) : ∃ c ∈ text.toList, Text.isDigit c = false := by
  have characters : text.toList.isEmpty = false := by simpa using nonempty
  rw [Text.isDecimal, characters, Bool.not_false, Bool.true_and, List.all_eq_false] at decimal
  obtain ⟨c, member, digit⟩ := decimal
  exact ⟨c, member, Bool.eq_false_iff.mpr digit⟩

/-- Errors that no response has given are no rejections, whichever of three variants they are. -/
theorem unanswered_promises {error : ClassifiedError}
    (variant : error.variant = .clientSide ∨ error.variant = .interrupted ∨
      error.variant = .generic) (status : error.statusCode = none) :
    error.kind ∉ ErrorKind.rejections ∧ error.kind.AllowsStatus error.statusCode ∧
      ∀ code details, error.variant ≠ .service code details := by
  rw [status, ClassifiedError.kind]
  rcases variant with clientSide | interrupted | generic
  · rw [clientSide]
    exact ⟨by decide, rfl, by simp⟩
  · rw [interrupted]
    exact ⟨by decide, rfl, by simp⟩
  · rw [generic]
    exact ⟨by decide, rfl, by simp⟩

theorem ClassifiedError.Origin.well_formed {history : History} {error : ClassifiedError}
    (origin : error.Origin history) (written : (history.failure error.cause).CodeWritten) :
    error.WellFormed history := by
  cases origin with
  | answered response body found read chosen status =>
      have kind : error.kind = (StatusMeaning.ofStatus response.status?).kind body.isSome :=
        response_variant_kind _ body _ chosen
      constructor
      case status =>
        rw [kind, status]
        exact meaning_kind_allows_status response.status? body.isSome
      case code =>
        intro code details service
        rw [service] at chosen
        obtain ⟨entries, text, rfl, rfl, shown, _⟩ := service_variant_from_body chosen
        have present := (response.body_iff_has_body entries).mp read
        obtain ⟨nonempty, decimal⟩ := body_code_nonempty (written response · found) present shown
        exact ⟨text, rfl, nonempty, some_character_no_digit nonempty decimal⟩
      case details =>
        intro code details service key text member
        rw [service] at chosen
        obtain ⟨_, _, _, _, _, made⟩ := service_variant_from_body chosen
        have kept := details_keys made key text member
        rw [isLeadingKey, Bool.or_eq_false_iff] at kept
        exact ⟨beq_eq_false_iff_ne.mp kept.1, beq_eq_false_iff_ne.mp kept.2⟩
      case cause =>
        rw [kind]
        exact iff_of_true ((is_service_iff _).mpr ⟨response, found⟩) (meaning_kind_rejects _ _)
  | unanswered plain variant status =>
      obtain ⟨rejected, allowed, noService⟩ := unanswered_promises variant status
      refine ⟨allowed, ?_, ?_, ?_⟩
      · intro code details service
        exact absurd service (noService code details)
      · intro code details service
        exact absurd service (noService code details)
      · rw [plain]
        exact iff_of_false (by decide) rejected

/-- What other code may do when no classified error is made by hand. Failures are made and linked in
any way, storage failures among them, but these carry what the library has given. -/
structure Journal.Carries (produced : List Classification) (earlier later : Journal) : Prop where
  remembered : earlier.Remembers later
  closed : later.history.Closed
  carried : ∀ id, earlier.history.size ≤ id → ∀ issued,
    (later.failure id).stored? = some issued → issued ∈ produced

theorem Journal.Carries.keeps {produced : List Classification} {earlier later : Journal}
    (carries : earlier.Carries produced later)
    (keeps : RunKeeps (fun history error => error.Origin history) produced earlier.history) :
    RunKeeps (fun history error => error.Origin history) produced later.history := by
  apply keeps.outlast carries.remembered.size_le carries.remembered.failures carries.closed ?_
    carries.carried
  intro error recorded origin
  exact origin.outlast (carries.remembered.failures error.cause recorded)

/-- A storage failure may be made of a given error without being raised. -/
theorem carries_wrap {journal : Journal} {produced : List Classification} {issued : Classification}
    (closed : journal.history.Closed) (member : issued ∈ produced) :
    journal.Carries produced (journal.wrap issued).1 := by
  have grown := journal.history.extends_record (.fresh (.ofClassification issued))
  refine ⟨⟨grown.size_le, grown.failure⟩, History.closed_record_fresh closed _, ?_⟩
  intro id beyond other held
  rw [Journal.wrap, journal.failure_record] at held
  split at held
  · exact Option.some.inj held ▸ member
  · rw [Journal.failure, History.failure, journal.history.occurrence_outside id beyond] at held
    cases held

/-- However a caller came by a classified error of the library, the variant holds what it promises.
Errors taken out of storage failures are no exception. -/
theorem given_errors_are_well_formed (direct : Prop) (start finish : Journal)
    (produced : List Classification) (closed : start.history.Closed)
    (unclassified : ∀ id, (start.failure id).isStorage = false)
    (course : Course Journal.Carries direct start produced finish)
    (written : ∀ id, (finish.failure id).CodeWritten) :
    (∀ issued ∈ produced, issued.error.WellFormed finish.history) ∧
      ∀ id issued, (finish.failure id).stored? = some issued →
        issued.error.WellFormed finish.history := by
  have keeps := course_keeps (origin_of_all direct) Journal.Carries.keeps closed unclassified course
  have wellFormed : ∀ issued ∈ produced, issued.error.WellFormed finish.history := by
    intro issued member
    exact (keeps.facts issued member).well_formed (written issued.error.cause)
  refine ⟨wellFormed, ?_⟩
  intro id issued held
  exact wellFormed issued (keeps.carried id issued held)

/-- A rejected call with a fraction for its code and words for its status. -/
def throttledJournal : Journal where
  history := History.empty.record (.fresh (.ofResponse "ClientError"
    ⟨some [("Code", .float "404.5"), ("Message", .null), ("Reason", .text "slow down")],
      some [("HTTPStatusCode", .text "too many")]⟩
    "An error occurred (404.5) when calling the PutObject operation: None"))
  issued := 0

theorem throttled_journal_closed : throttledJournal.history.Closed :=
  History.closed_record_fresh History.closed_empty _

theorem throttled_journal_unclassified (id : FailureId) :
    (throttledJournal.failure id).isStorage = false :=
  History.unclassified_record History.unclassified_empty rfl id

def throttledError : Classification where
  number := 0
  error := {
    variant := .service (some "404.5") [("Reason", "slow down")]
    message := "putObject: An error occurred (404.5) when calling the PutObject operation: None"
    operation := "putObject"
    cause := 0
    path := none
    statusCode := none }

/-- The error is put into a storage failure that is never raised, and a future fails with that. -/
def throttledFuture : Journal × FailureId :=
  (throttledJournal.issue throttledError.error).1.wrap throttledError

theorem throttled_error_is_well_formed :
    Course Journal.Carries True throttledJournal [throttledError, throttledError]
        throttledFuture.1 ∧
      (∀ id, (throttledFuture.1.failure id).CodeWritten) ∧
      throttledError.error.WellFormed throttledFuture.1.history := by
  have recorded : 0 < throttledJournal.history.size := by decide
  have classified : Course Journal.Carries True throttledJournal [throttledError]
      (throttledJournal.issue throttledError.error).1 :=
    .called .started (.classified trivial "putObject" .absent 0 recorded rfl)
  have wrapped := classified.meanwhile
    (carries_wrap throttled_journal_closed List.mem_cons_self)
  have course : Course Journal.Carries True throttledJournal [throttledError, throttledError]
      throttledFuture.1 :=
    wrapped.called (.extracted "copyObject" (.text "data/key")
      (.future .threadPool (.failed throttledFuture.2)) (Nat.lt_succ_self 1) rfl)
  have written : ∀ id, (throttledFuture.1.failure id).CodeWritten := by
    intro id
    change ((History.record (History.record _ _) _).occurrence id).failure.CodeWritten
    rw [History.occurrence_record, History.occurrence_record]
    split
    · intro response value answered
      cases answered
    · split
      · intro response value answered found
        cases answered
        rw [← Option.some.inj found]
        change "404.5" ≠ ""
        decide
      · intro response value answered
        cases answered
  obtain ⟨wellFormed, _⟩ := given_errors_are_well_formed True _ _ _ throttled_journal_closed
    throttled_journal_unclassified course written
  exact ⟨course, written, wellFormed _ List.mem_cons_self⟩

end ObjectStore
