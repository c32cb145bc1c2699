import ObjectStore.Proofs.Classification
import ObjectStore.Proofs.MissingTexts

/-!
# What an error code is read as

Where the metadata do not say the status, the error code is looked at twice: it may be a number that
stands for the status, and it may be the code of a structured body. A number is shown by its digits
alone, and a body is told by a code that is more than digits, so no code is both. Only a negative
integer is, since its text starts with a sign.
-/

namespace ObjectStore

set_option autoImplicit false

theorem digit_of_ascii (c : Char) (ascii : c.isDigit = true) : Text.isDigit c = true := by
  have bounds : 0x30 ≤ c.toNat ∧ c.toNat < 0x30 + 10 := by
    simp only [Char.isDigit, Bool.and_eq_true, decide_eq_true_eq] at ascii
    have lower : 0x30 ≤ c.toNat := ascii.1
    have upper : c.toNat ≤ 0x39 := ascii.2
    exact ⟨lower, by omega⟩
  simp [Text.isDigit, Text.digitValue?, Text.zeroCodes, bounds]

theorem natural_text_decimal (number : Nat) : Text.isDecimal (toString number) = true := by
  have digits : (toString number).toList = Nat.toDigits 10 number := by
    rw [Nat.toString_eq_repr, Nat.toList_repr]
  rw [is_decimal_iff, digits]
  refine ⟨Nat.toDigits_ne_nil, ?_⟩
  intro c member
  exact digit_of_ascii c (Nat.isDigit_of_mem_toDigits (by decide) (by decide) member)

theorem integer_text_eq {number : Int} {text : String} (made : integerText number = .ok text) :
    text = toString number := by
  unfold integerText Text.integerText? at made
  split at made
  · rename_i written given
    split at given
    · cases made
      exact (Option.some.inj given).symm
    · cases given
  · cases made

/-- What reads as a natural number shows as digits. -/
theorem ReadsAs.shown_decimal {value : Value} {number : Int} {text : String}
    (reads : ReadsAs value number) (natural : 0 ≤ number) (shown : value.shown = .ok text) :
    Text.isDecimal text = true := by
  cases reads with
  | integer =>
      rw [Value.shown_integer] at shown
      obtain ⟨magnitude, rfl⟩ := Int.eq_ofNat_of_zero_le natural
      rw [integer_text_eq shown]
      exact natural_text_decimal magnitude
  | decimal _ nonempty digits =>
      cases shown
      exact (is_decimal_iff text).mpr ⟨nonempty, digits⟩

theorem ReadsAs.integer_of_negative {value : Value} {number : Int} (reads : ReadsAs value number)
    (negative : number < 0) : value = .integer number := by
  cases reads with
  | integer => rfl
  | decimal => exact absurd negative (by simp)

namespace Response

/-- The metadata hold no status, or one that cannot be read. -/
def MetadataSilent (response : Response) : Prop :=
  ∀ value, response.metadataEntry? "HTTPStatusCode" = some value → ∀ number, ¬ReadsAs value number

theorem MetadataSilent.code_reads {response : Response} (silent : response.MetadataSilent)
    {status : Int} (reported : response.status? = some status) :
    ∃ value, response.errorEntry? "Code" = some value ∧ ReadsAs value status := by
  rcases (response.status_iff_reports status).mp reported with ⟨value, found, reads⟩ | ⟨_, code⟩
  · exact absurd reads (silent value found status)
  · exact code

/-- The code of a body is no number, negative integers apart. -/
theorem HasBody.code_negative {response : Response} {entries : Record}
    (present : response.HasBody entries) {value : Value} {number : Int}
    (code : response.errorEntry? "Code" = some value) (reads : ReadsAs value number) :
    value = .integer number ∧ number < 0 := by
  obtain ⟨shown, text, found, _, made, moreThanDigits⟩ := present.code
  rw [Response.errorEntry?, present.error, Option.bind_some, found] at code
  obtain rfl : shown = value := Option.some.inj code
  rcases Int.lt_or_le number 0 with negative | natural
  · exact ⟨reads.integer_of_negative negative, negative⟩
  · rw [reads.shown_decimal natural made] at moreThanDigits
    cases moreThanDigits

theorem MetadataSilent.body_status_negative {response : Response}
    (silent : response.MetadataSilent) {entries : Record} (present : response.HasBody entries)
    {status : Int} (reported : response.status? = some status) :
    response.errorEntry? "Code" = some (.integer status) ∧ status < 0 := by
  obtain ⟨value, code, reads⟩ := silent.code_reads reported
  obtain ⟨rfl, negative⟩ := present.code_negative code reads
  exact ⟨code, negative⟩

/-- Where the code can be shown it is known whether there is a body. -/
theorem body_of_quoted_code {response : Response} {code : String}
    (quoted : response.quotedCode = .ok code) : ∃ body, response.body? = .ok body := by
  apply response.body_fails.returns
  rintro ⟨value, found, _, long⟩
  have refused := (response.quoted_code_fails .integerTooLong).mpr ⟨rfl, value, found, long⟩
  rw [quoted] at refused
  cases refused

end Response

/-- A rejected call that has a text has quoted its code. -/
theorem Failure.body_of_text {failure : Failure} {response : Response} {failureText : String}
    (found : failure.response = some response) (told : failure.text = .ok failureText) :
    ∃ body, response.body? = .ok body := by
  rw [text, found] at told
  obtain ⟨code, quoted, _⟩ := (except_bind_eq_ok _ _ _).mp told
  exact Response.body_of_quoted_code quoted

theorem classified_kind_by_status {history : History} {operation : String} {path : Path}
    {id : FailureId} {error : ClassifiedError} {response : Response}
    (found : (history.failure id).response = some response)
    (made : history.classify operation path id = .ok error) :
    error.statusCode = response.status? ∧
      KindByStatus response.status? (∃ entries, response.HasBody entries) error.kind := by
  obtain ⟨_, _, _, _, cases⟩ := (history.classify_eq_ok_iff operation path id error).mp made
  rcases cases with ⟨plain, _⟩ | ⟨_, body, variant, same, read, chosen, rfl⟩
  · rw [found] at plain
    cases plain
  · rw [found] at same
    cases same
    have isBody : ∀ entries, body = some entries ↔ response.HasBody entries := by
      intro entries
      rw [← response.body_iff_has_body entries, read]
      simp
    have byTable := kind_by_reported_status response body isBody
    rw [← response_variant_kind _ body variant chosen] at byTable
    exact ⟨rfl, byTable⟩

/-- Where the metadata say nothing, a code stands for the status or tells of a body and never does
both, unless it is a negative integer. So no such call is ever classified as a redirect, and as a
service error only without a status or with a negative one. -/
theorem code_is_status_or_body (response : Response) (silent : response.MetadataSilent) :
    (∀ status entries, response.status? = some status → response.HasBody entries →
      response.errorEntry? "Code" = some (.integer status) ∧ status < 0) ∧
    (∀ status code, response.status? = some status → response.quotedCode = .ok code →
      response.body? = .ok none ∨
        response.errorEntry? "Code" = some (.integer status) ∧ status < 0) ∧
    ∀ (history : History) (operation : String) (path : Path) (id : FailureId)
        (error : ClassifiedError),
      (history.failure id).response = some response →
      history.classify operation path id = .ok error →
      error.kind ≠ .redirect ∧
        (error.kind = .service → ∀ status, error.statusCode = some status → status < 0) := by
  refine ⟨?_, ?_, ?_⟩
  · intro status entries reported present
    exact silent.body_status_negative present reported
  · intro status code reported quoted
    obtain ⟨body, read⟩ := Response.body_of_quoted_code quoted
    cases body with
    | none => exact Or.inl read
    | some entries =>
        have present := (response.body_iff_has_body entries).mp read
        exact Or.inr (silent.body_status_negative present reported)
  · intro history operation path id error found made
    obtain ⟨sameStatus, byTable⟩ := classified_kind_by_status found made
    constructor
    · intro redirect
      obtain ⟨reported, entries, present⟩ := byTable.redirect.mp redirect
      have negative : (301 : Int) < 0 := (silent.body_status_negative present reported).2
      omega
    · intro service status reported
      obtain ⟨_, entries, present⟩ := byTable.service.mp service
      rw [sameStatus] at reported
      exact (silent.body_status_negative present reported).2

def signedRedirect : Response where
  error := some [("Code", .text "٣٠١"), ("Message", .text "moved"),
    ("Endpoint", .text "eu.example.com")]
  metadata := some [("HTTPStatusCode", .text "+301")]

def negativeCode : Response where
  error := some [("Code", .integer (-301)), ("Endpoint", .text "eu.example.com")]
  metadata := some [("HTTPStatusCode", .boolean true)]

def silentHistory : History :=
  (History.empty.record (.fresh (.ofResponse "ClientError" signedRedirect "moved"))).record
    (.fresh (.ofResponse "ClientError" negativeCode "unknown"))

theorem signed_redirect_silent : signedRedirect.MetadataSilent := by
  intro value found number reads
  obtain rfl : Value.text "+301" = value := Option.some.inj found
  cases reads with
  | decimal _ _ digits => exact absurd (digits '+' (by decide)) (by decide)

theorem negative_code_silent : negativeCode.MetadataSilent := by
  intro value found number reads
  obtain rfl : Value.boolean true = value := Option.some.inj found
  cases reads

theorem negative_code_shown : (Value.integer (-301)).shown = .ok "-301" := by
  obtain ⟨text, shown⟩ := (integer_text_fails (-301)).returns (by decide)
  obtain rfl : text = "-301" := integer_text_eq shown
  rw [Value.shown_integer, shown]

theorem negative_code_has_body : ∃ entries, negativeCode.HasBody entries :=
  ⟨_, rfl, by simp, .integer (-301), "-301", rfl, rfl, negative_code_shown, by decide⟩

theorem negative_code_classified :
    ∃ error, silentHistory.classify "getObject" (.text "data/key") 1 = .ok error ∧
      error.kind = .service ∧ error.statusCode = some (-301) := by
  have showable : negativeCode.Showable := by
    intro entries error key value member
    cases error
    simp only [List.mem_cons, Prod.mk.injEq, List.not_mem_nil, or_false] at member
    rcases member with ⟨_, rfl⟩ | ⟨_, rfl⟩
    · exact ⟨_, negative_code_shown⟩
    · exact ⟨_, rfl⟩
  have told : (silentHistory.failure 1).text = .ok "unknown" := by
    change ((Value.integer (-301)).shown >>= fun code => _) = _
    rw [negative_code_shown]
    rfl
  obtain ⟨body, variant, read, isBody, kind, made⟩ :=
    silentHistory.classify_service "getObject" (.text "data/key") (some "data/key") 1 _
      negativeCode rfl told rfl showable
  refine ⟨_, made, ?_, rfl⟩
  obtain ⟨entries, present⟩ := negative_code_has_body
  rw [(isBody entries).mpr present] at kind
  exact kind

/-- The code in digits is a status and no body, so the endpoint beside it makes no redirect of the
call. The negative code is both, and the service error that it makes has a negative status. -/
theorem signed_redirect_and_negative_code :
    signedRedirect.MetadataSilent ∧ negativeCode.MetadataSilent ∧
      signedRedirect.status? = some 301 ∧ signedRedirect.body? = .ok none ∧
      (∃ error, silentHistory.classify "getObject" (.text "data/key") 0 = .ok error ∧
        error.kind = .genericService ∧ error.kind ≠ .redirect) ∧
      ∃ error, silentHistory.classify "getObject" (.text "data/key") 1 = .ok error ∧
        error.kind = .service ∧ error.statusCode = some (-301) ∧ (-301 : Int) < 0 := by
  obtain ⟨_, bodiless, moved⟩ := code_is_status_or_body signedRedirect signed_redirect_silent
  obtain ⟨_, _, negative⟩ := code_is_status_or_body negativeCode negative_code_silent
  obtain ⟨error, made, service, status⟩ := negative_code_classified
  have reported : signedRedirect.status? = some 301 := by rfl
  refine ⟨signed_redirect_silent, negative_code_silent, reported, ?_, ⟨_, rfl, rfl, ?_⟩,
    error, made, service, status, ?_⟩
  · rcases bodiless 301 _ reported rfl with none | ⟨code, _⟩
    · exact none
    · cases code
  · exact (moved silentHistory "getObject" (.text "data/key") 0 _ rfl rfl).1
  · exact (negative silentHistory "getObject" (.text "data/key") 1 error rfl made).2
      service _ status

end ObjectStore
