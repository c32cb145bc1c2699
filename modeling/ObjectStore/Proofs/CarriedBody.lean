import ObjectStore.Proofs.Independence
import ObjectStore.Proofs.Refusal

/-!
# What is carried over from a body

A service error takes over the whole body: the code as its code, every other entry but the message
as a detail. A redirect looks for the endpoint in the same details. So nothing but the message can
get lost, and a redirect is told of an endpoint exactly when the body has one, whatever its value.
What a redirect says of the endpoint is written out here, character by character.
-/

namespace ObjectStore

set_option autoImplicit false

/-- The details are the entries of a body without the code and the message, each once and in the
order of the body, with the texts of the values. -/
structure Details.Carry (details : Details) (entries : Record) : Prop where
  keys : details.map Prod.fst =
    (entries.map Prod.fst).filter fun key => key ≠ "Code" ∧ key ≠ "Message"
  once : (details.map Prod.fst).Nodup
  texts : ∀ key value, (key, value) ∈ entries → key ≠ "Code" → key ≠ "Message" →
    ∃ text, value.shown = .ok text ∧ List.lookup key details = some text

theorem details_carry {entries : Record} {details : Details}
    (distinct : (entries.map Prod.fst).Nodup) (made : detailsOf entries = .ok details) :
    details.Carry entries := by
  have keys : details.map Prod.fst =
      (entries.map Prod.fst).filter fun key => key ≠ "Code" ∧ key ≠ "Message" := by
    rw [details_keys_in_order made]
    apply List.filter_congr
    intro key _
    apply Bool.eq_iff_iff.mpr
    rw [Bool.not_eq_true', not_leading_iff, decide_eq_true_eq]
  refine ⟨keys, ?_, ?_⟩
  · rw [keys]
    exact distinct.filter _
  · intro key value member notCode notMessage
    have kept : isLeadingKey key = false := (not_leading_iff key).mpr ⟨notCode, notMessage⟩
    obtain ⟨text, shown⟩ := (details_return_iff entries).mp ⟨details, made⟩ key value member kept
    refine ⟨text, shown, (details_lookup_iff entries details made key text).mpr ?_⟩
    exact ⟨kept, value, Response.value_of_mem distinct member, shown⟩

theorem Details.Carry.lookup_none_iff {details : Details} {entries : Record}
    (carry : details.Carry entries) {key : String} (kept : key ≠ "Code" ∧ key ≠ "Message") :
    List.lookup key details = none ↔ key ∉ entries.map Prod.fst := by
  have present : key ∈ details.map Prod.fst ↔ key ∈ entries.map Prod.fst := by
    rw [carry.keys, List.mem_filter, decide_eq_true_eq, and_iff_left kept]
  rw [← present, List.lookup_eq_none_iff]
  constructor
  · intro apart member
    obtain ⟨entry, inside, rfl⟩ := List.mem_map.mp member
    exact absurd rfl (bne_iff_ne.mp (apart entry inside))
  · intro absent entry member
    apply bne_iff_ne.mpr
    rintro rfl
    exact absent (List.mem_map_of_mem member)

def Record.OfTexts (entries : Record) : Prop :=
  ∀ key value, (key, value) ∈ entries → ∃ content, value = .text content

/-- A text shows as itself, so it is known from how it shows. -/
theorem Record.OfTexts.value_of_shown {entries : Record} (texts : entries.OfTexts)
    {key text : String} :
    (∃ value, entries.value? key = some value ∧ value.shown = .ok text) ↔
      entries.value? key = some (.text text) := by
  constructor
  · rintro ⟨value, found, shown⟩
    obtain ⟨content, rfl⟩ := texts key value (Response.mem_of_value found)
    rw [found, Except.ok.inj shown]
  · intro found
    exact ⟨.text text, found, rfl⟩

theorem Record.OfTexts.value_eq {left right : Record} (leftTexts : left.OfTexts)
    (rightTexts : right.OfTexts) {key : String}
    (alike : ∀ text, left.value? key = some (.text text) ↔ right.value? key = some (.text text)) :
    left.value? key = right.value? key := by
  apply Option.ext
  intro value
  constructor
  · intro found
    obtain ⟨content, rfl⟩ := leftTexts key value (Response.mem_of_value found)
    exact (alike content).mp found
  · intro found
    obtain ⟨content, rfl⟩ := rightTexts key value (Response.mem_of_value found)
    exact (alike content).mpr found

theorem Record.OfTexts.value_eq_of_details {left right : Record}
    {leftDetails rightDetails : Details} (leftTexts : left.OfTexts) (rightTexts : right.OfTexts)
    (madeLeft : detailsOf left = .ok leftDetails) (madeRight : detailsOf right = .ok rightDetails)
    (alike : ∀ key, List.lookup key leftDetails = List.lookup key rightDetails) {key : String}
    (kept : isLeadingKey key = false) : left.value? key = right.value? key := by
  apply leftTexts.value_eq rightTexts
  intro text
  have readLeft := details_lookup_iff left leftDetails madeLeft key text
  have readRight := details_lookup_iff right rightDetails madeRight key text
  rw [and_iff_right kept, leftTexts.value_of_shown] at readLeft
  rw [and_iff_right kept, rightTexts.value_of_shown] at readRight
  rw [← readLeft, ← readRight, alike key]

theorem redirect_message_eq (endpoint : String) :
    redirectMessage endpoint =
      "Received permanent redirect response to endpoint " ++ endpoint ++
        ".  This likely indicates that the object store endpoint configured in " ++
        "OBJSTORE_ENDPOINT_URL does not match the region containing the bucket." := by
  unfold redirectMessage endpointVariable
  apply String.ext
  simp [String.toList_append, toString]

theorem status_meaning_other {status : Option Int}
    (unlisted : status ∉ [some 301, some 401, some 403, some 404, some 410, some 416]) :
    StatusMeaning.ofStatus status = .other := by
  unfold StatusMeaning.ofStatus
  split <;> simp_all

theorem variant_of_service_kind {error : ClassifiedError} (service : error.kind = .service) :
    ∃ code details, error.variant = .service code details := by
  rw [ClassifiedError.kind] at service
  cases same : error.variant with
  | service code details => exact ⟨code, details, rfl⟩
  | _ =>
      rw [same] at service
      cases service

theorem agree_service {code : Option String} {details : Details} {variant : Variant}
    (agreed : (Variant.service code details).agree variant = true) :
    ∃ others, variant = .service code others ∧ details.agree others = true := by
  cases variant with
  | service otherCode others =>
      simp only [Variant.agree, Bool.and_eq_true, beq_iff_eq] at agreed
      exact ⟨others, by rw [agreed.1], agreed.2⟩
  | _ => cases agreed

namespace Attempt

theorem message_of_classify {attempt : Attempt} {label : Option String} {failureText : String}
    {error : ClassifiedError} (labelled : attempt.path.label? = .ok label)
    (described : attempt.failure.text = .ok failureText) (made : attempt.classify = .ok error) :
    error.message =
      variantMessage (failureMessage attempt.operation label failureText) error.variant := by
  obtain ⟨otherLabel, otherText, verdict, otherLabelled, otherDescribed, _, rfl⟩ :=
    (attempt.classify_eq_ok_iff error).mp made
  rw [labelled] at otherLabelled
  rw [described] at otherDescribed
  rw [Except.ok.inj otherLabelled, Except.ok.inj otherDescribed]
  rfl

theorem Answered.code_value {attempt : Attempt} {response : Response} {entries : Record}
    (answered : attempt.Answered response (some entries)) {code : String}
    (shown : (Record.code entries).shown = .ok code) :
    ∃ value, entries.value? "Code" = some value ∧ value.shown = .ok code := by
  have present := (response.body_iff_has_body entries).mp answered.read
  obtain ⟨value, _, found, _, _, _⟩ := present.code
  rw [Record.code, found] at shown
  exact ⟨value, found, shown⟩

theorem Answered.classify_of_variant {attempt : Attempt} {response : Response}
    {body : Option Record} (answered : attempt.Answered response body)
    (describable : attempt.Describable) {variant : Variant}
    (chosen : responseVariant (.ofStatus response.status?) body = .ok variant) :
    ∃ error, attempt.classify = .ok error ∧ error.variant = variant := by
  obtain ⟨error, classified⟩ := (answered.returns_iff describable).mpr ⟨variant, chosen⟩
  obtain ⟨made, _, _⟩ := answered.classified error classified
  rw [chosen] at made
  exact ⟨error, classified, (Except.ok.inj made).symm⟩

theorem Answered.service_of_unlisted {attempt : Attempt} {response : Response} {entries : Record}
    {details : Details} (answered : attempt.Answered response (some entries))
    (describable : attempt.Describable) (made : detailsOf entries = .ok details)
    (unlisted : response.status? ∉
      [some 301, some 401, some 403, some 404, some 410, some 416]) :
    ∃ error code, attempt.classify = .ok error ∧ error.variant = .service (some code) details ∧
      ∃ value, entries.value? "Code" = some value ∧ value.shown = .ok code := by
  have present := (response.body_iff_has_body entries).mp answered.read
  obtain ⟨value, code, found, _, shown, _⟩ := present.code
  have codeShown : (Record.code entries).shown = .ok code := by
    rw [Record.code, found]
    exact shown
  have chosen : responseVariant (.ofStatus response.status?) (some entries) =
      .ok (.service (some code) details) := by
    rw [status_meaning_other unlisted]
    exact (response_variant_service entries _).mpr ⟨code, details, codeShown, made, rfl⟩
  obtain ⟨error, classified, variant⟩ := answered.classify_of_variant describable chosen
  exact ⟨error, code, classified, variant, value, found, shown⟩

theorem Answered.redirect_of_moved {attempt : Attempt} {response : Response} {entries : Record}
    {details : Details} (answered : attempt.Answered response (some entries))
    (describable : attempt.Describable) (made : detailsOf entries = .ok details)
    (moved : response.status? = some 301) :
    ∃ error, attempt.classify = .ok error ∧
      error.variant = .redirect (List.lookup "Endpoint" details) := by
  apply answered.classify_of_variant describable
  rw [moved]
  exact (response_variant_redirect entries _).mpr ⟨details, made, rfl⟩

theorem Answered.service_body {attempt : Attempt} {response : Response} {entries : Record}
    (answered : attempt.Answered response (some entries)) {error : ClassifiedError}
    (made : attempt.classify = .ok error) {code : Option String} {details : Details}
    (service : error.variant = .service code details) :
    ∃ text, code = some text ∧ (Record.code entries).shown = .ok text ∧
      detailsOf entries = .ok details := by
  obtain ⟨chosen, _, _⟩ := answered.classified error made
  rw [service] at chosen
  obtain ⟨others, text, same, written, shown, detailed⟩ := service_variant_from_body chosen
  cases same
  exact ⟨text, written, shown, detailed⟩

/-- The code and the details of a service error tell a body of texts apart from all that differ from
it in more than the message. -/
theorem Answered.entries_agree {left right : Attempt} {leftResponse rightResponse : Response}
    {leftEntries rightEntries : Record} {leftError rightError : ClassifiedError}
    (answeredLeft : left.Answered leftResponse (some leftEntries))
    (answeredRight : right.Answered rightResponse (some rightEntries))
    (leftTexts : leftEntries.OfTexts) (rightTexts : rightEntries.OfTexts)
    (madeLeft : left.classify = .ok leftError) (madeRight : right.classify = .ok rightError)
    {code : Option String} {details others : Details}
    (leftVariant : leftError.variant = .service code details)
    (rightVariant : rightError.variant = .service code others)
    (alike : details.agree others = true) {key : String} (notMessage : key ≠ "Message") :
    leftEntries.value? key = rightEntries.value? key := by
  obtain ⟨text, written, leftShown, leftDetailed⟩ :=
    answeredLeft.service_body madeLeft leftVariant
  obtain ⟨otherText, otherWritten, rightShown, rightDetailed⟩ :=
    answeredRight.service_body madeRight rightVariant
  obtain rfl : text = otherText := Option.some.inj (written.symm.trans otherWritten)
  -- the code is no detail, it has a field of its own
  by_cases isCode : key = "Code"
  · subst isCode
    rw [leftTexts.value_of_shown.mp (answeredLeft.code_value leftShown),
      rightTexts.value_of_shown.mp (answeredRight.code_value rightShown)]
  · exact leftTexts.value_eq_of_details rightTexts leftDetailed rightDetailed
      (lookup_of_agree alike) ((not_leading_iff key).mpr ⟨isCode, notMessage⟩)

/-- A redirect names the endpoint exactly when the body has one; otherwise its message tells the
operation, the object if there is one, and the text of the failure. -/
theorem Answered.redirect_message {attempt : Attempt} {response : Response} {entries : Record}
    {details : Details} (answered : attempt.Answered response (some entries))
    (carry : details.Carry entries) {error : ClassifiedError}
    (classified : attempt.classify = .ok error)
    (redirect : error.variant = .redirect (List.lookup "Endpoint" details)) :
    ("Endpoint" ∈ entries.map Prod.fst ↔ ∃ endpoint,
      List.lookup "Endpoint" details = some endpoint ∧
      error.message = "Received permanent redirect response to endpoint " ++ endpoint ++
        ".  This likely indicates that the object store endpoint configured in " ++
        "OBJSTORE_ENDPOINT_URL does not match the region containing the bucket.") ∧
    ("Endpoint" ∉ entries.map Prod.fst → ∀ failureText, attempt.failure.text = .ok failureText →
      (attempt.path.label? = .ok none →
        error.message = attempt.operation ++ ": " ++ failureText) ∧
      ∀ label, attempt.path.label? = .ok (some label) →
        error.message = attempt.operation ++ " on " ++ label ++ ": " ++ failureText) := by
  have absent : List.lookup "Endpoint" details = none ↔ "Endpoint" ∉ entries.map Prod.fst :=
    carry.lookup_none_iff (by decide)
  constructor
  · constructor
    · intro present
      cases known : List.lookup "Endpoint" details with
      | none => exact absurd present (absent.mp known)
      | some endpoint =>
          obtain ⟨_, _, message, told⟩ := answered.classified error classified
          refine ⟨endpoint, rfl, ?_⟩
          rw [told, redirect, known, ← redirect_message_eq]
          rfl
    · rintro ⟨endpoint, known, _⟩
      apply Classical.byContradiction
      intro missing
      rw [absent.mpr missing] at known
      cases known
  · intro missing failureText described
    rw [absent.mpr missing] at redirect
    constructor
    · intro labelled
      rw [message_of_classify labelled described classified, redirect]
      rfl
    · intro label labelled
      rw [message_of_classify labelled described classified, redirect]
      rfl

/-- A service error takes over the code and the other entries of its body, and a redirect with the
same body looks for its endpoint in the same details. Its message names the endpoint if there is one
and is the usual one if there is none. When all values are texts, service errors with the same code
and the same details come from bodies that differ in the message at most. -/
theorem body_is_carried_without_loss :
    (∀ entries : Record, (entries.map Prod.fst).Nodup →
      (∀ key value, (key, value) ∈ entries → ∃ text, value.shown = .ok text) →
      ∃ details : Details, details.Carry entries ∧
        ∀ (attempt : Attempt) (response : Response),
          attempt.Answered response (some entries) → attempt.Describable →
          (response.status? ∉ [some 301, some 401, some 403, some 404, some 410, some 416] →
            ∃ error code, attempt.classify = .ok error ∧
              error.variant = .service (some code) details ∧
              ∃ value, entries.value? "Code" = some value ∧ value.shown = .ok code) ∧
          (response.status? = some 301 →
            ∃ error, attempt.classify = .ok error ∧
              error.variant = .redirect (List.lookup "Endpoint" details) ∧
              (List.lookup "Endpoint" details = none ↔ "Endpoint" ∉ entries.map Prod.fst) ∧
              ("Endpoint" ∈ entries.map Prod.fst ↔ ∃ endpoint,
                List.lookup "Endpoint" details = some endpoint ∧
                error.message = "Received permanent redirect response to endpoint " ++ endpoint ++
                  ".  This likely indicates that the object store endpoint configured in " ++
                  "OBJSTORE_ENDPOINT_URL does not match the region containing the bucket.") ∧
              ("Endpoint" ∉ entries.map Prod.fst → ∀ failureText,
                attempt.failure.text = .ok failureText →
                (attempt.path.label? = .ok none →
                  error.message = attempt.operation ++ ": " ++ failureText) ∧
                ∀ label, attempt.path.label? = .ok (some label) →
                  error.message = attempt.operation ++ " on " ++ label ++ ": " ++ failureText))) ∧
    ∀ (left right : Attempt) (leftResponse rightResponse : Response)
        (leftEntries rightEntries : Record) (leftError rightError : ClassifiedError),
      left.Answered leftResponse (some leftEntries) →
      right.Answered rightResponse (some rightEntries) →
      leftEntries.OfTexts → rightEntries.OfTexts →
      left.classify = .ok leftError → right.classify = .ok rightError →
      leftError.kind = .service → leftError.variant.agree rightError.variant = true →
      ∀ key, key ≠ "Message" → leftEntries.value? key = rightEntries.value? key := by
  constructor
  · intro entries distinct showable
    obtain ⟨details, made⟩ := details_return entries showable
    have carry := details_carry distinct made
    refine ⟨details, carry, ?_⟩
    intro attempt response answered describable
    refine ⟨answered.service_of_unlisted describable made, ?_⟩
    intro moved
    obtain ⟨error, classified, redirect⟩ := answered.redirect_of_moved describable made moved
    exact ⟨error, classified, redirect, carry.lookup_none_iff (by decide),
      answered.redirect_message carry classified redirect⟩
  · intro left right leftResponse rightResponse leftEntries rightEntries leftError rightError
      answeredLeft answeredRight leftTexts rightTexts madeLeft madeRight service agreed key
      notMessage
    obtain ⟨code, details, leftVariant⟩ := variant_of_service_kind service
    rw [leftVariant] at agreed
    obtain ⟨others, rightVariant, alike⟩ := agree_service agreed
    exact answeredLeft.entries_agree answeredRight leftTexts rightTexts madeLeft madeRight
      leftVariant rightVariant alike notMessage

def answeredOnce (response : Response) : Attempt where
  history := History.empty.record (.fresh (.ofResponse "ClientError" response "refused"))
  id := 0
  operation := "getObject"
  path := .absent

/-- A body with falsy values, the endpoint among them. -/
def emptyEndpoint : Record :=
  [("Message", .text "moved"), ("Bucket", .null), ("Endpoint", .text ""),
    ("Code", .text "PermanentRedirect"), ("Regions", .list [.text "eu", .boolean false])]

def slowDown : Record :=
  [("Code", .text "SlowDown"), ("Message", .text "Reduce your rate."), ("Bucket", .text "data")]

def slowDownReworded : Record :=
  [("Bucket", .text "data"), ("Code", .text "SlowDown"), ("Message", .text "Try again.")]

def bareMove : Record :=
  [("Code", .text "PermanentRedirect")]

def withStatus (entries : Record) (status : Int) : Response where
  error := some entries
  metadata := some [("HTTPStatusCode", .integer status)]

theorem empty_endpoint_showable (key : String) (value : Value)
    (member : (key, value) ∈ emptyEndpoint) : ∃ text, value.shown = .ok text := by
  have shown : ∀ entry ∈ emptyEndpoint, ∃ text, entry.2.shown = .ok text := by
    simp only [emptyEndpoint, List.forall_mem_cons]
    exact ⟨⟨_, rfl⟩, ⟨_, rfl⟩, ⟨_, rfl⟩, ⟨_, rfl⟩, ⟨_, rfl⟩, by simp⟩
  exact shown (key, value) member

theorem slow_down_of_texts : slowDown.OfTexts ∧ slowDownReworded.OfTexts := by
  constructor
  · intro key value member
    have isText : ∀ entry ∈ slowDown, ∃ content, entry.2 = .text content := by simp [slowDown]
    exact isText (key, value) member
  · intro key value member
    have isText : ∀ entry ∈ slowDownReworded, ∃ content, entry.2 = .text content := by
      simp [slowDownReworded]
    exact isText (key, value) member

/-- An endpoint without characters is still an endpoint: the service error has it among its details,
and the redirect names it. The two requests to slow down differ in their messages alone. -/
theorem empty_endpoint_is_named :
    (∃ details serviceError redirectError,
      (answeredOnce (withStatus emptyEndpoint 500)).classify = .ok serviceError ∧
      (∃ code, serviceError.variant = .service code details) ∧
      (answeredOnce (withStatus emptyEndpoint 301)).classify = .ok redirectError ∧
      redirectError.variant = .redirect (some "") ∧ List.lookup "Endpoint" details = some "" ∧
      details.map Prod.fst = ["Bucket", "Endpoint", "Regions"] ∧
      redirectError.message = "Received permanent redirect response to endpoint .  " ++
        "This likely indicates that the object store endpoint configured in " ++
        "OBJSTORE_ENDPOINT_URL does not match the region containing the bucket.") ∧
    (∃ error, (answeredOnce (withStatus bareMove 301)).classify = .ok error ∧
      error.message = "getObject: refused") ∧
    ∀ key, key ≠ "Message" → slowDown.value? key = slowDownReworded.value? key := by
  obtain ⟨carried, lossless⟩ := body_is_carried_without_loss
  refine ⟨?_, ?_, ?_⟩
  · obtain ⟨details, carry, read⟩ :=
      carried emptyEndpoint (by decide) empty_endpoint_showable
    obtain ⟨service, _⟩ := read (answeredOnce (withStatus emptyEndpoint 500)) _
      ⟨rfl, rfl⟩ ⟨⟨_, rfl⟩, _, rfl⟩
    obtain ⟨_, redirect⟩ := read (answeredOnce (withStatus emptyEndpoint 301)) _
      ⟨rfl, rfl⟩ ⟨⟨_, rfl⟩, _, rfl⟩
    obtain ⟨serviceError, code, made, variant, _⟩ := service (by decide)
    obtain ⟨redirectError, madeRedirect, redirected, _, named, _⟩ := redirect (by decide)
    obtain ⟨text, shown, known⟩ :=
      carry.texts "Endpoint" (.text "") (by simp [emptyEndpoint]) (by decide) (by decide)
    cases shown
    obtain ⟨endpoint, found, message⟩ := named.mp (by decide)
    obtain rfl : "" = endpoint := Option.some.inj (known.symm.trans found)
    rw [known] at redirected
    exact ⟨details, serviceError, redirectError, made, ⟨_, variant⟩, madeRedirect, redirected,
      known, carry.keys, message⟩
  · obtain ⟨_, _, read⟩ := carried bareMove (by decide) (by
      intro key value member
      rw [bareMove, List.mem_singleton] at member
      cases member
      exact ⟨_, rfl⟩)
    obtain ⟨_, redirect⟩ := read (answeredOnce (withStatus bareMove 301)) _ ⟨rfl, rfl⟩
      ⟨⟨_, rfl⟩, _, rfl⟩
    obtain ⟨error, made, _, _, _, usual⟩ := redirect (by decide)
    exact ⟨error, made, (usual (by decide) "refused" rfl).1 rfl⟩
  · obtain ⟨texts, rewordedTexts⟩ := slow_down_of_texts
    exact lossless (answeredOnce (withStatus slowDown 503))
      (answeredOnce (withStatus slowDownReworded 503)) _ _ _ _ _ _ ⟨rfl, rfl⟩
      ⟨rfl, rfl⟩ texts rewordedTexts rfl rfl rfl (by decide)

end Attempt

end ObjectStore
