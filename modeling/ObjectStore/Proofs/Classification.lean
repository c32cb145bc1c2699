import ObjectStore.Classify
import ObjectStore.Proofs.ResponseReading

/-!
# How a failure is classified

One equivalence says when a failure is classified and as what; everything else about
`History.classify` is read off it. The main statement is the table: a rejected call gets its kind
from the status it reports and from whether it has a body, every other failure from its chain.
-/

namespace ObjectStore

set_option autoImplicit false

def History.plainError (history : History) (operation : String) (label : Option String)
    (failureText : String) (id : FailureId) : ClassifiedError where
  variant := if history.isInterrupted (some id) then .interrupted else .clientSide
  message := failureMessage operation label failureText
  operation := operation
  cause := id
  path := label
  statusCode := none

def responseError (operation : String) (label : Option String) (failureText : String)
    (id : FailureId) (response : Response) (variant : Variant) : ClassifiedError where
  variant := variant
  message := variantMessage (failureMessage operation label failureText) variant
  operation := operation
  cause := id
  path := label
  statusCode := response.status?

theorem is_service_iff (failure : Failure) :
    failure.isService = true ↔ ∃ response, failure.response = some response :=
  Option.isSome_iff_exists

theorem not_service_iff (failure : Failure) :
    failure.isService = false ↔ failure.response = none :=
  Option.isSome_eq_false_iff.trans Option.isNone_iff_eq_none

theorem History.classify_eq_ok_iff (history : History) (operation : String) (path : Path)
    (id : FailureId) (error : ClassifiedError) :
    history.classify operation path id = .ok error ↔
      ∃ label failureText, path.label? = .ok label ∧
        (history.failure id).text = .ok failureText ∧
        ((history.failure id).response = none ∧
            error = history.plainError operation label failureText id ∨
          ∃ response body variant,
            (history.failure id).response = some response ∧
            response.body? = .ok body ∧
            responseVariant (.ofStatus response.status?) body = .ok variant ∧
            error = responseError operation label failureText id response variant) := by
  unfold History.classify
  rw [except_bind_eq_ok]
  apply exists_congr
  intro label
  rw [except_bind_eq_ok, ← exists_and_left]
  apply exists_congr
  intro failureText
  rw [except_map_error_eq_ok]
  apply and_congr_right
  intro _
  apply and_congr_right
  intro _
  cases (history.failure id).response with
  | some response =>
      simp only [except_bind_eq_ok, except_map_error_eq_ok, pure, Except.pure, Except.ok.injEq]
      constructor
      · rintro ⟨body, read, variant, chosen, same⟩
        exact Or.inr ⟨response, body, variant, rfl, read, chosen, same.symm⟩
      · rintro (⟨impossible, _⟩ | ⟨_, body, variant, same, read, chosen, rfl⟩)
        · cases impossible
        · cases same
          exact ⟨body, read, variant, chosen, rfl⟩
  | none =>
      simp only [pure, Except.pure, Except.ok.injEq, reduceCtorEq, false_and, exists_false,
        or_false, true_and]
      exact eq_comm

/-- The kinds of rejected calls. Six statuses have a meaning of their own, one of them only beside a
body; with every other status, or without one, the body alone decides. -/
structure KindByStatus (status : Option Int) (hasBody : Prop) (kind : ErrorKind) : Prop where
  accessDenied : kind = .accessDenied ↔ status = some 401 ∨ status = some 403
  notFound : kind = .notFound ↔ status = some 404 ∨ status = some 410
  range : kind = .range ↔ status = some 416
  redirect : kind = .redirect ↔ status = some 301 ∧ hasBody
  service : kind = .service ↔
    status ∉ [some 301, some 401, some 403, some 404, some 410, some 416] ∧ hasBody
  genericService : kind = .genericService ↔
    status ∉ [some 401, some 403, some 404, some 410, some 416] ∧ ¬hasBody

def StatusMeaning.kind : StatusMeaning → Bool → ErrorKind
  | .accessDenied, _ => .accessDenied
  | .notFound, _ => .notFound
  | .range, _ => .range
  | .redirect, true => .redirect
  | .other, true => .service
  | .redirect, false => .genericService
  | .other, false => .genericService

theorem kind_by_status (status : Option Int) (hasBody : Bool) :
    KindByStatus status (hasBody = true) ((StatusMeaning.ofStatus status).kind hasBody) := by
  unfold StatusMeaning.ofStatus
  split
  · cases hasBody <;> constructor <;> simp [StatusMeaning.kind]
  · constructor <;> simp [StatusMeaning.kind]
  · constructor <;> simp [StatusMeaning.kind]
  · constructor <;> simp [StatusMeaning.kind]
  · constructor <;> simp [StatusMeaning.kind]
  · constructor <;> simp [StatusMeaning.kind]
  · cases hasBody <;> constructor <;> simp_all [StatusMeaning.kind]

theorem response_variant_service (entries : Record) (variant : Variant) :
    responseVariant .other (some entries) = .ok variant ↔
      ∃ code details, (Record.code entries).shown = .ok code ∧ detailsOf entries = .ok details ∧
        .service (some code) details = variant := by
  simp only [responseVariant, except_bind_eq_ok, pure, Except.pure, Except.ok.injEq,
    exists_and_left]

theorem response_variant_redirect (entries : Record) (variant : Variant) :
    responseVariant .redirect (some entries) = .ok variant ↔
      ∃ details, detailsOf entries = .ok details ∧
        .redirect (List.lookup "Endpoint" details) = variant := by
  simp only [responseVariant, except_bind_eq_ok, pure, Except.pure, Except.ok.injEq]

theorem response_variant_kind (meaning : StatusMeaning) (body : Option Record)
    (variant : Variant) (chosen : responseVariant meaning body = .ok variant) :
    variant.kind = meaning.kind body.isSome := by
  cases meaning with
  | accessDenied =>
      cases chosen
      rfl
  | notFound =>
      cases chosen
      rfl
  | range =>
      cases chosen
      rfl
  | redirect =>
      cases body with
      | none =>
          cases chosen
          rfl
      | some entries =>
          obtain ⟨details, _, rfl⟩ := (response_variant_redirect entries variant).mp chosen
          rfl
  | other =>
      cases body with
      | none =>
          cases chosen
          rfl
      | some entries =>
          obtain ⟨code, details, _, _, rfl⟩ := (response_variant_service entries variant).mp chosen
          rfl

/-- Only a body gives a service error, and it gives the code and the details. -/
theorem service_variant_from_body {meaning : StatusMeaning} {body : Option Record}
    {code : Option String} {details : Details}
    (chosen : responseVariant meaning body = .ok (.service code details)) :
    ∃ entries text, body = some entries ∧ code = some text ∧
      (Record.code entries).shown = .ok text ∧ detailsOf entries = .ok details := by
  have kind := response_variant_kind meaning body _ chosen
  cases meaning with
  | other =>
      cases body with
      | none => cases kind
      | some entries =>
          obtain ⟨text, others, shown, made, same⟩ :=
            (response_variant_service entries _).mp chosen
          cases same
          exact ⟨entries, text, rfl, rfl, shown, made⟩
  | redirect => cases body <;> cases kind
  | _ => cases kind

theorem response_variant_returns (response : Response) (showable : response.Showable)
    (meaning : StatusMeaning) (body : Option Record)
    (isBody : ∀ entries, body = some entries ↔ response.HasBody entries) :
    ∃ variant, responseVariant meaning body = .ok variant := by
  cases body with
  | none => cases meaning <;> exact ⟨_, rfl⟩
  | some entries =>
      have present := (isBody entries).mp rfl
      obtain ⟨code, text, found, _, shown, _⟩ := present.code
      obtain ⟨details, made⟩ := details_return entries (showable entries present.error)
      cases meaning with
      | accessDenied => exact ⟨.accessDenied, rfl⟩
      | notFound => exact ⟨.notFound, rfl⟩
      | range => exact ⟨.range, rfl⟩
      | redirect =>
          exact ⟨_, (response_variant_redirect entries _).mpr ⟨details, made, rfl⟩⟩
      | other =>
          have code : (Record.code entries).shown = .ok text := by
            rw [Record.code, found]
            exact shown
          exact ⟨_, (response_variant_service entries _).mpr ⟨text, details, code, made, rfl⟩⟩

theorem Journal.classify_eq_ok_iff (journal : Journal) (operation : String) (path : Path)
    (id : FailureId) (result : Journal × Classification) :
    journal.classify operation path id = .ok result ↔
      ∃ error, journal.history.classify operation path id = .ok error ∧
        journal.issue error = result := by
  rw [Journal.classify, except_bind_eq_ok]
  simp only [pure, Except.pure, Except.ok.injEq]

/-- A classified error points at the failure it was made from. -/
theorem History.classify_cause (history : History) (operation : String) (path : Path)
    (id : FailureId) (error : ClassifiedError)
    (made : history.classify operation path id = .ok error) :
    error.cause = id ∧ error.operation = operation := by
  obtain ⟨label, failureText, _, _, cases⟩ :=
    (history.classify_eq_ok_iff operation path id error).mp made
  rcases cases with ⟨_, rfl⟩ | ⟨_, _, _, _, _, _, rfl⟩ <;> exact ⟨rfl, rfl⟩

/-- Classifying a failure records nothing and keeps it as the cause. -/
theorem Journal.classify_keeps {journal later : Journal} {operation : String} {path : Path}
    {id : FailureId} {issued : Classification}
    (made : journal.classify operation path id = .ok (later, issued)) :
    later.history = journal.history ∧ issued.error.cause = id := by
  obtain ⟨error, classified, handedOut⟩ :=
    (journal.classify_eq_ok_iff operation path id _).mp made
  cases handedOut
  exact ⟨rfl, (journal.history.classify_cause operation path id error classified).1⟩

/-- Only a failure without a response is ever classified as interrupted, and none as generic. -/
theorem History.classify_kind (history : History) (operation : String) (path : Path)
    (id : FailureId) (error : ClassifiedError)
    (made : history.classify operation path id = .ok error) :
    (error.kind = .interrupted ↔
      (history.failure id).isService = false ∧ history.isInterrupted (some id) = true) ∧
      error.kind ≠ .generic := by
  obtain ⟨label, failureText, _, _, cases⟩ :=
    (history.classify_eq_ok_iff operation path id error).mp made
  rcases cases with ⟨plain, rfl⟩ | ⟨response, body, variant, found, _, chosen, rfl⟩
  · cases interrupted : history.isInterrupted (some id) <;>
      simp [ClassifiedError.kind, plainError, interrupted, Variant.kind, plain, Failure.isService]
  · have kind : (responseError operation label failureText id response variant).kind =
        (StatusMeaning.ofStatus response.status?).kind body.isSome :=
      response_variant_kind _ body variant chosen
    rw [kind, Failure.isService, found]
    cases StatusMeaning.ofStatus response.status? <;> cases body <;> simp [StatusMeaning.kind]

theorem History.classify_plain (history : History) (operation : String) (path : Path)
    (label : Option String) (id : FailureId) (failureText : String)
    (labelled : path.label? = .ok label)
    (described : (history.failure id).text = .ok failureText)
    (plain : (history.failure id).isService = false) :
    history.classify operation path id =
      .ok (history.plainError operation label failureText id) := by
  apply (history.classify_eq_ok_iff operation path id _).mpr
  exact ⟨label, failureText, labelled, described, Or.inl ⟨(not_service_iff _).mp plain, rfl⟩⟩

theorem History.classify_service (history : History) (operation : String) (path : Path)
    (label : Option String) (id : FailureId) (failureText : String) (response : Response)
    (labelled : path.label? = .ok label)
    (described : (history.failure id).text = .ok failureText)
    (found : (history.failure id).response = some response)
    (showable : response.Showable) :
    ∃ body variant, response.body? = .ok body ∧
      (∀ entries, body = some entries ↔ response.HasBody entries) ∧
      variant.kind = (StatusMeaning.ofStatus response.status?).kind body.isSome ∧
      history.classify operation path id =
        .ok (responseError operation label failureText id response variant) := by
  obtain ⟨body, read, isBody⟩ := response.body_returns showable
  obtain ⟨variant, chosen⟩ :=
    response_variant_returns response showable (.ofStatus response.status?) body isBody
  have made := (history.classify_eq_ok_iff operation path id _).mpr
    ⟨label, failureText, labelled, described,
      Or.inr ⟨response, body, variant, found, read, chosen, rfl⟩⟩
  exact ⟨body, variant, read, isBody, response_variant_kind _ body variant chosen, made⟩

theorem kind_by_reported_status (response : Response) (body : Option Record)
    (isBody : ∀ entries, body = some entries ↔ response.HasBody entries) :
    KindByStatus response.status? (∃ entries, response.HasBody entries)
      ((StatusMeaning.ofStatus response.status?).kind body.isSome) := by
  have bodyExists : (∃ entries, response.HasBody entries) ↔ body.isSome = true := by
    rw [Option.isSome_iff_exists]
    exact exists_congr fun entries => (isBody entries).symm
  rw [bodyExists]
  exact kind_by_status response.status? body.isSome

/-- Wherever the texts can be made a failure is classified. A rejected call gets the kind that the
table gives to its status and its body, and every other failure is interrupted or not. -/
theorem History.classify_decides_by_table (history : History) (operation : String) (path : Path)
    (label : Option String) (id : FailureId) (failureText : String)
    (labelled : path.label? = .ok label)
    (described : (history.failure id).text = .ok failureText)
    (showable : ∀ response, (history.failure id).response = some response →
      response.Showable) :
    ∃ error, history.classify operation path id = .ok error ∧
      error.operation = operation ∧ error.path = label ∧ error.cause = id ∧
      ((history.failure id).isService = false →
        error.statusCode = none ∧
          error.variant =
            if history.isInterrupted (some id) then .interrupted else .clientSide) ∧
      ∀ response, (history.failure id).response = some response →
        error.statusCode = response.status? ∧
          (∀ status, error.statusCode = some status ↔ response.Reports status) ∧
          (∃ body, response.body? = .ok body ∧
            ∀ entries, body = some entries ↔ response.HasBody entries) ∧
          KindByStatus error.statusCode (∃ entries, response.HasBody entries) error.kind := by
  cases answered : (history.failure id).isService with
  | false =>
      have made := history.classify_plain operation path label id failureText labelled described
        answered
      refine ⟨_, made, rfl, rfl, rfl, ?_, ?_⟩
      · intro _
        exact ⟨rfl, rfl⟩
      · intro response found
        rw [(not_service_iff _).mp answered] at found
        cases found
  | true =>
      obtain ⟨response, found⟩ := (is_service_iff _).mp answered
      obtain ⟨body, variant, read, isBody, kind, made⟩ :=
        history.classify_service operation path label id failureText response labelled described
          found (showable response found)
      refine ⟨_, made, rfl, rfl, rfl, ?_, ?_⟩
      · intro impossible
        cases impossible
      · intro other same
        obtain rfl : response = other := Option.some.inj (found.symm.trans same)
        have byTable := kind_by_reported_status response body isBody
        rw [← kind] at byTable
        exact ⟨rfl, response.status_iff_reports, ⟨body, read, isBody⟩, byTable⟩

/-- A bucket that has moved, reported with a status in Arabic digits. -/
def movedBucket : Response where
  error := some [("Code", .text "PermanentRedirect"), ("Message", .text "moved"),
    ("Endpoint", .text "eu.example.com"), ("Bucket", .text "data")]
  metadata := some [("HTTPStatusCode", .text "٣٠١")]

def movedBucketText : String :=
  "An error occurred (PermanentRedirect) when calling the GetObject operation: moved"

def movedBucketHistory : History :=
  History.empty.record (.fresh (.ofResponse "ClientError" movedBucket movedBucketText))

theorem moved_bucket_redirects :
    (Path.text "data/key").label? = .ok (some "data/key") ∧
      (movedBucketHistory.failure 0).text = .ok movedBucketText ∧
      movedBucket.Showable ∧
      ∃ error, movedBucketHistory.classify "getObject" (.text "data/key") 0 = .ok error ∧
        error.kind = .redirect ∧ error.statusCode = some 301 := by
  have showable : movedBucket.Showable := by
    intro entries error key value member
    cases error
    simp only [List.mem_cons, Prod.mk.injEq, List.not_mem_nil, or_false] at member
    rcases member with ⟨_, rfl⟩ | ⟨_, rfl⟩ | ⟨_, rfl⟩ | ⟨_, rfl⟩ <;> exact ⟨_, rfl⟩
  obtain ⟨error, classified, _, _, _, _, answered⟩ :=
    movedBucketHistory.classify_decides_by_table "getObject" (.text "data/key") (some "data/key") 0
      movedBucketText rfl rfl
      (by
        intro response found
        cases found
        exact showable)
  obtain ⟨_, reported, _, byTable⟩ := answered _ rfl
  obtain ⟨nonempty, digits⟩ := (is_decimal_iff "٣٠١").mp rfl
  have status : error.statusCode = some 301 :=
    (reported 301).mpr (Or.inl ⟨.text "٣٠١", rfl, .decimal "٣٠١" nonempty digits (by decide)⟩)
  refine ⟨rfl, rfl, showable, error, classified, byTable.redirect.mpr ⟨status, ?_⟩, status⟩
  exact ⟨_, rfl, by simp, .text "PermanentRedirect", "PermanentRedirect", rfl, rfl, rfl, by decide⟩

end ObjectStore
