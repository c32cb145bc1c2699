import ObjectStore.Proofs.Verdict

/-!
# What classification depends on

Of a rejected call only the status and the body matter, of any other failure only where interrupts
stand in its chain. Operation, path and message fill in the remaining fields and decide nothing.
Both are statements about two runs, in histories that need not have anything to do with each other.
-/

namespace ObjectStore

set_option autoImplicit false

structure Attempt where
  history : History
  id : FailureId
  operation : String
  path : Path

namespace Attempt

def classify (attempt : Attempt) : Except ClassificationFault ClassifiedError :=
  attempt.history.classify attempt.operation attempt.path attempt.id

def failure (attempt : Attempt) : Failure :=
  attempt.history.failure attempt.id

def Describable (attempt : Attempt) : Prop :=
  (∃ label, attempt.path.label? = .ok label) ∧ ∃ failureText, attempt.failure.text = .ok failureText

/-- Whether interrupts stand in the chain, link by link, for as long as it goes on. -/
def interruptAt (attempt : Attempt) (links : Nat) : Option Bool :=
  (attempt.history.after? attempt.id links).map attempt.history.isInterrupt

theorem classify_eq_ok_iff (attempt : Attempt) (error : ClassifiedError) :
    attempt.classify = .ok error ↔
      ∃ label failureText verdict, attempt.path.label? = .ok label ∧
        attempt.failure.text = .ok failureText ∧
        attempt.history.verdict attempt.id = .ok verdict ∧
        .ofVerdict attempt.operation label failureText attempt.id verdict = error :=
  attempt.history.classify_iff_verdict attempt.operation attempt.path attempt.id error

theorem returns_iff (attempt : Attempt) (describable : attempt.Describable) :
    (∃ error, attempt.classify = .ok error) ↔
      ∃ verdict, attempt.history.verdict attempt.id = .ok verdict := by
  obtain ⟨⟨label, labelled⟩, failureText, described⟩ := describable
  constructor
  · rintro ⟨error, made⟩
    obtain ⟨_, _, verdict, _, _, decided, _⟩ := (attempt.classify_eq_ok_iff error).mp made
    exact ⟨verdict, decided⟩
  · rintro ⟨verdict, decided⟩
    exact ⟨_, (attempt.classify_eq_ok_iff _).mpr
      ⟨label, failureText, verdict, labelled, described, decided, rfl⟩⟩

end Attempt

/-- Two records with the same keys and the same value under each. No key stands in a record twice;
the order of the keys does not matter. -/
structure SameEntries (left right : Record) : Prop where
  leftDistinct : (left.map Prod.fst).Nodup
  rightDistinct : (right.map Prod.fst).Nodup
  alike : ∀ key, left.value? key = right.value? key

namespace SameEntries

theorem of_perm {left right : Record} (distinct : (left.map Prod.fst).Nodup)
    (reordered : left.Perm right) : SameEntries left right := by
  have distinctRight : (right.map Prod.fst).Nodup :=
    (reordered.map Prod.fst).nodup_iff.mp distinct
  refine ⟨distinct, distinctRight, ?_⟩
  intro key
  apply Option.ext
  intro value
  constructor
  · intro found
    exact Response.value_of_mem distinctRight (reordered.mem_iff.mp (Response.mem_of_value found))
  · intro found
    exact Response.value_of_mem distinct (reordered.mem_iff.mpr (Response.mem_of_value found))

theorem symm {left right : Record} (same : SameEntries left right) : SameEntries right left :=
  ⟨same.rightDistinct, same.leftDistinct, fun key => (same.alike key).symm⟩

theorem mem {left right : Record} (same : SameEntries left right) {key : String} {value : Value}
    (member : (key, value) ∈ left) : (key, value) ∈ right := by
  apply Response.mem_of_value
  rw [← same.alike key]
  exact Response.value_of_mem same.leftDistinct member

theorem code {left right : Record} (same : SameEntries left right) :
    Record.code left = Record.code right := by
  rw [Record.code, Record.code, same.alike]

theorem details_return {left right : Record} (same : SameEntries left right)
    (made : ∃ details, detailsOf left = .ok details) :
    ∃ details, detailsOf right = .ok details := by
  apply (details_return_iff right).mpr
  intro key value member
  exact (details_return_iff left).mp made key value (same.symm.mem member)

theorem lookup {left right : Record} (same : SameEntries left right)
    {leftDetails rightDetails : Details} (madeLeft : detailsOf left = .ok leftDetails)
    (madeRight : detailsOf right = .ok rightDetails)
    (key : String) : List.lookup key leftDetails = List.lookup key rightDetails := by
  apply Option.ext
  intro text
  rw [details_lookup_iff left leftDetails madeLeft, details_lookup_iff right rightDetails madeRight,
    same.alike key]

end SameEntries

theorem agree_of_lookup {left right : Details}
    (alike : ∀ key, List.lookup key left = List.lookup key right) : left.agree right = true := by
  apply List.all_eq_true.mpr
  rintro ⟨key, _⟩ _
  exact beq_iff_eq.mpr (alike key)

theorem lookup_of_agree {left right : Details} (agreed : left.agree right = true) (key : String) :
    List.lookup key left = List.lookup key right := by
  have alike := List.all_eq_true.mp agreed
  by_cases present : ∃ text, (key, text) ∈ left ++ right
  · obtain ⟨text, member⟩ := present
    exact beq_iff_eq.mp (alike (key, text) member)
  · have absent : ∀ details : Details, (∀ entry ∈ details, entry ∈ left ++ right) →
        List.lookup key details = none := by
      intro details within
      apply List.lookup_eq_none_iff.mpr
      intro entry member
      apply bne_iff_ne.mpr
      rintro rfl
      exact present ⟨entry.2, within entry member⟩
    rw [absent left fun _ => List.mem_append_left right,
      absent right fun _ => List.mem_append_right left]

theorem Variant.agree_self (variant : Variant) : variant.agree variant = true := by
  cases variant with
  | service code details => simp [Variant.agree, details.agree_self]
  | _ => simp [Variant.agree]

inductive SameBody : Option Record → Option Record → Prop where
  | absent : SameBody none none
  | present {left right : Record} (same : SameEntries left right) :
      SameBody (some left) (some right)

theorem SameBody.symm {left right : Option Record} (same : SameBody left right) :
    SameBody right left := by
  cases same with
  | absent => exact .absent
  | present same => exact .present same.symm

theorem response_variant_returns_alike (meaning : StatusMeaning) {left right : Option Record}
    (same : SameBody left right) (made : ∃ variant, responseVariant meaning left = .ok variant) :
    ∃ variant, responseVariant meaning right = .ok variant := by
  obtain ⟨variant, made⟩ := made
  cases same with
  | absent => exact ⟨variant, made⟩
  | @present left right same =>
      cases meaning with
      | redirect =>
          obtain ⟨details, detailed, _⟩ := (response_variant_redirect left variant).mp made
          obtain ⟨others, remade⟩ := same.details_return ⟨details, detailed⟩
          exact ⟨_, (response_variant_redirect right _).mpr ⟨others, remade, rfl⟩⟩
      | other =>
          obtain ⟨code, details, shown, detailed, _⟩ :=
            (response_variant_service left variant).mp made
          obtain ⟨others, remade⟩ := same.details_return ⟨details, detailed⟩
          rw [same.code] at shown
          exact ⟨_, (response_variant_service right _).mpr ⟨code, others, shown, remade, rfl⟩⟩
      | _ => exact ⟨_, rfl⟩

theorem response_variant_agrees (meaning : StatusMeaning) {left right : Option Record}
    (same : SameBody left right) {leftVariant rightVariant : Variant}
    (madeLeft : responseVariant meaning left = .ok leftVariant)
    (madeRight : responseVariant meaning right = .ok rightVariant) :
    leftVariant.agree rightVariant = true := by
  cases same with
  | absent =>
      rw [madeLeft] at madeRight
      rw [Except.ok.inj madeRight]
      exact rightVariant.agree_self
  | @present left right same =>
      cases meaning with
      | redirect =>
          obtain ⟨details, detailed, rfl⟩ := (response_variant_redirect left _).mp madeLeft
          obtain ⟨others, remade, rfl⟩ := (response_variant_redirect right _).mp madeRight
          rw [same.lookup detailed remade]
          exact Variant.agree_self _
      | other =>
          obtain ⟨code, details, shown, detailed, rfl⟩ :=
            (response_variant_service left _).mp madeLeft
          obtain ⟨otherCode, others, reshown, remade, rfl⟩ :=
            (response_variant_service right _).mp madeRight
          have sameCode : code = otherCode := by
            rw [same.code, reshown] at shown
            exact (Except.ok.inj shown).symm
          simp only [Variant.agree, Bool.and_eq_true, beq_iff_eq]
          exact ⟨congrArg some sameCode, agree_of_lookup (same.lookup detailed remade)⟩
      | _ =>
          cases madeLeft
          cases madeRight
          rfl

theorem redirect_of_endpoint {entries : Record} {address : Value} {variant : Variant}
    (present : entries.value? "Endpoint" = some address)
    (made : responseVariant .redirect (some entries) = .ok variant) :
    ∃ endpoint, variant = .redirect (some endpoint) := by
  obtain ⟨details, detailed, rfl⟩ := (response_variant_redirect entries variant).mp made
  obtain ⟨text, shown⟩ := (details_return_iff entries).mp ⟨details, detailed⟩ "Endpoint" address
    (Response.mem_of_value present) rfl
  refine ⟨text, congrArg Variant.redirect ?_⟩
  exact (details_lookup_iff entries details detailed "Endpoint" text).mpr
    ⟨rfl, address, present, shown⟩

theorem agree_redirect {endpoint : Option String} {variant : Variant}
    (agreed : (Variant.redirect endpoint).agree variant = true) : variant = .redirect endpoint := by
  cases variant <;> simp_all [Variant.agree]

namespace Attempt

/-- The attempt is on a rejected call with this response, from which this body is read. -/
structure Answered (attempt : Attempt) (response : Response) (body : Option Record) : Prop where
  rejected : attempt.failure.response = some response
  read : response.body? = .ok body

theorem Answered.classified {attempt : Attempt} {response : Response} {body : Option Record}
    (answered : attempt.Answered response body) (error : ClassifiedError)
    (made : attempt.classify = .ok error) :
    responseVariant (.ofStatus response.status?) body = .ok error.variant ∧
      error.statusCode = response.status? ∧
      ∃ message, error.message = variantMessage message error.variant := by
  obtain ⟨label, failureText, verdict, _, _, decided, rfl⟩ :=
    (attempt.classify_eq_ok_iff error).mp made
  rw [verdict_service answered.rejected answered.read] at decided
  cases chosen : responseVariant (.ofStatus response.status?) body with
  | error fault =>
      rw [chosen] at decided
      cases decided
  | ok variant =>
      rw [chosen] at decided
      cases decided
      exact ⟨rfl, rfl, failureMessage attempt.operation label failureText, rfl⟩

theorem Answered.returns_iff {attempt : Attempt} {response : Response} {body : Option Record}
    (answered : attempt.Answered response body) (describable : attempt.Describable) :
    (∃ error, attempt.classify = .ok error) ↔
      ∃ variant, responseVariant (.ofStatus response.status?) body = .ok variant := by
  rw [attempt.returns_iff describable, verdict_service answered.rejected answered.read]
  cases responseVariant (.ofStatus response.status?) body <;> simp [Except.map]

theorem Answered.returns {attempt : Attempt} {response : Response} {body : Option Record}
    (answered : attempt.Answered response body) (describable : attempt.Describable)
    (showable : response.Showable) : ∃ error, attempt.classify = .ok error := by
  apply (answered.returns_iff describable).mpr
  apply response_variant_returns response showable
  intro entries
  rw [← response.body_iff_has_body entries, answered.read, Except.ok.injEq]

theorem interrupted_iff_interrupt_at (attempt : Attempt) :
    attempt.history.isInterrupted (some attempt.id) = true ↔
      ∃ links, attempt.interruptAt links = some true := by
  rw [attempt.history.is_interrupted_iff_after attempt.id]
  simp only [interruptAt, Option.map_eq_some_iff]

theorem interrupted_alike {left right : Attempt}
    (alike : ∀ links, left.interruptAt links = right.interruptAt links) :
    left.history.isInterrupted (some left.id) = right.history.isInterrupted (some right.id) := by
  apply Bool.eq_iff_iff.mpr
  rw [left.interrupted_iff_interrupt_at, right.interrupted_iff_interrupt_at]
  simp only [alike]

theorem plain_variant {attempt : Attempt} (plain : attempt.failure.isService = false)
    (error : ClassifiedError) (made : attempt.classify = .ok error) :
    error.variant = if attempt.history.isInterrupted (some attempt.id) then .interrupted
      else .clientSide := by
  obtain ⟨_, _, verdict, _, _, decided, rfl⟩ := (attempt.classify_eq_ok_iff error).mp made
  rw [verdict_plain plain] at decided
  rw [← Except.ok.inj decided]
  rfl

theorem plain_returns_iff {attempt : Attempt} (plain : attempt.failure.isService = false) :
    (∃ error, attempt.classify = .ok error) ↔ attempt.Describable := by
  constructor
  · rintro ⟨error, made⟩
    obtain ⟨label, failureText, _, labelled, described, _⟩ :=
      (attempt.classify_eq_ok_iff error).mp made
    exact ⟨⟨label, labelled⟩, failureText, described⟩
  · intro describable
    exact (attempt.returns_iff describable).mpr ⟨_, verdict_plain plain⟩

/-- Two rejected calls that agree on status and body are classified alike, in whatever histories,
with whatever operations and paths. So are two other failures whose chains agree on where the
interrupts stand, however the links below them run. -/
theorem classification_depends_on_status_body_and_chain :
    (∀ (left right : Attempt) (leftResponse rightResponse : Response)
        (leftBody rightBody : Option Record),
      left.Answered leftResponse leftBody → right.Answered rightResponse rightBody →
      leftResponse.status? = rightResponse.status? → SameBody leftBody rightBody →
      (left.Describable → right.Describable →
        ((∃ error, left.classify = .ok error) ↔ ∃ error, right.classify = .ok error) ∧
        (leftResponse.Showable → ∃ error, left.classify = .ok error)) ∧
      ∀ leftError rightError,
        left.classify = .ok leftError → right.classify = .ok rightError →
        leftError.variant.agree rightError.variant = true ∧
        leftError.statusCode = rightError.statusCode ∧
        (leftBody = rightBody → leftError.variant = rightError.variant) ∧
        (leftResponse.status? = some 301 →
          (∃ entries address, leftBody = some entries ∧
            entries.value? "Endpoint" = some address) →
          leftError.message = rightError.message)) ∧
    ∀ left right : Attempt,
      left.failure.isService = false → right.failure.isService = false →
      (∀ links, left.interruptAt links = right.interruptAt links) →
      ((∃ error, left.classify = .ok error) ↔ left.Describable) ∧
      ((∃ error, right.classify = .ok error) ↔ right.Describable) ∧
      ∀ leftError rightError,
        left.classify = .ok leftError → right.classify = .ok rightError →
        leftError.variant = rightError.variant := by
  constructor
  · intro left right leftResponse rightResponse leftBody rightBody answeredLeft answeredRight
      status same
    constructor
    · intro describableLeft describableRight
      refine ⟨?_, answeredLeft.returns describableLeft⟩
      rw [answeredLeft.returns_iff describableLeft, answeredRight.returns_iff describableRight,
        ← status]
      exact ⟨response_variant_returns_alike _ same, response_variant_returns_alike _ same.symm⟩
    · intro leftError rightError madeLeft madeRight
      obtain ⟨chosenLeft, statusLeft, leftBase, leftMessage⟩ :=
        answeredLeft.classified leftError madeLeft
      obtain ⟨chosenRight, statusRight, rightBase, rightMessage⟩ :=
        answeredRight.classified rightError madeRight
      rw [← status] at chosenRight
      have agreed := response_variant_agrees _ same chosenLeft chosenRight
      refine ⟨agreed, ?_, ?_, ?_⟩
      · rw [statusLeft, statusRight, status]
      · rintro rfl
        exact Except.ok.inj (chosenLeft.symm.trans chosenRight)
      · rintro moved ⟨entries, address, rfl, present⟩
        -- The message of a redirect to a known endpoint holds nothing but the endpoint.
        rw [moved] at chosenLeft
        obtain ⟨endpoint, redirected⟩ := redirect_of_endpoint present chosenLeft
        rw [redirected] at agreed leftMessage
        rw [agree_redirect agreed] at rightMessage
        rw [leftMessage, rightMessage]
        rfl
  · intro left right plainLeft plainRight alike
    refine ⟨plain_returns_iff plainLeft, plain_returns_iff plainRight, ?_⟩
    intro leftError rightError madeLeft madeRight
    rw [plain_variant plainLeft leftError madeLeft, plain_variant plainRight rightError madeRight,
      interrupted_alike alike]

/-- The bucket that has moved, with its entries in another order and a status in Latin digits. -/
def movedBucketRetried : Response where
  error := some [("Bucket", .text "data"), ("Endpoint", .text "eu.example.com"),
    ("Message", .text "moved"), ("Code", .text "PermanentRedirect")]
  metadata := some [("RetryAttempts", .integer 4), ("HTTPStatusCode", .integer 301)]

def movedBucketAttempt : Attempt where
  history := movedBucketHistory
  id := 0
  operation := "getObject"
  path := .text "data/key"

def movedBucketRetriedAttempt : Attempt where
  history := ⟨#[
    .fresh (.ofArguments "KeyboardInterrupt" [] [.keyboardInterrupt]),
    (Occurrence.fresh
      (.ofResponse "EventStreamError" movedBucketRetried "stream broken")).raisedFrom (some 0)]⟩
  id := 1
  operation := "headObject"
  path := .absent

def circleOfOne : Attempt where
  history := ⟨#[(Occurrence.fresh default).raisedFrom (some 0)]⟩
  id := 0
  operation := "getObject"
  path := .absent

/-- Two client failures, each raised while the other one was handled. -/
def circleOfTwo : Attempt where
  history := ⟨#[
    { Occurrence.fresh (.ofClient "NoCredentialsError" "Unable to locate credentials") with
      context := some 1 },
    { Occurrence.fresh (.ofClient "NoRegionError" "You must specify a region.") with
      context := some 0 }]⟩
  id := 1
  operation := "putObject"
  path := .posix "data//key"

theorem moved_bucket_retried_same_entries :
    ∃ left right, movedBucket.error = some left ∧ movedBucketRetried.error = some right ∧
      SameEntries left right := by
  refine ⟨_, _, rfl, rfl, ?_⟩
  apply SameEntries.of_perm
  · decide
  · exact (List.reverse_perm _).symm

theorem interrupt_at_in_circle (attempt : Attempt) (recorded : attempt.id < attempt.history.size)
    (ordinary : ∀ id, id < attempt.history.size → attempt.history.isInterrupt id = false)
    (linked : ∀ id, id < attempt.history.size →
      ∃ other, attempt.history.next? id = some other ∧ other < attempt.history.size)
    (links : Nat) : attempt.interruptAt links = some false := by
  -- However far the chain has gone, it has not left the history.
  have onward : ∃ id, attempt.history.after? attempt.id links = some id ∧
      id < attempt.history.size := by
    induction links with
    | zero => exact ⟨attempt.id, rfl, recorded⟩
    | succ links ih =>
        obtain ⟨middle, reached, inside⟩ := ih
        obtain ⟨other, next, otherInside⟩ := linked middle inside
        refine ⟨other, ?_, otherInside⟩
        rw [History.after?, reached, Option.bind_some]
        exact next
  obtain ⟨id, reached, inside⟩ := onward
  rw [interruptAt, reached, Option.map_some, ordinary id inside]

theorem circles_alike (links : Nat) :
    circleOfOne.interruptAt links = circleOfTwo.interruptAt links := by
  have one : circleOfOne.interruptAt links = some false := by
    apply interrupt_at_in_circle
    · decide
    · intro id inside
      obtain rfl : id = 0 := Nat.lt_one_iff.mp inside
      rfl
    · intro id inside
      obtain rfl : id = 0 := Nat.lt_one_iff.mp inside
      exact ⟨0, rfl, by decide⟩
  have two : circleOfTwo.interruptAt links = some false := by
    have either : ∀ id, id < circleOfTwo.history.size → id = 0 ∨ id = 1 := by
      intro id inside
      change id < 2 at inside
      omega
    apply interrupt_at_in_circle
    · decide
    · intro id inside
      rcases either id inside with rfl | rfl <;> rfl
    · intro id inside
      rcases either id inside with rfl | rfl
      · exact ⟨1, rfl, by decide⟩
      · exact ⟨0, rfl, by decide⟩
  rw [one, two]

theorem moved_bucket_showable : movedBucket.Showable := by
  intro entries error key value member
  cases error
  have isText : ∀ entry ∈ movedBucket.error.getD [], ∃ content, entry.2 = .text content := by
    simp [movedBucket]
  obtain ⟨content, rfl⟩ := isText (key, value) member
  exact ⟨content, rfl⟩

/-- A moved bucket that is reported twice is the same redirect both times, and circles of links of
different lengths without an interrupt both mean that nothing was interrupted. -/
theorem moved_bucket_and_circles_alike :
    (∃ leftError rightError, movedBucketAttempt.classify = .ok leftError ∧
      movedBucketRetriedAttempt.classify = .ok rightError ∧
      leftError.variant.agree rightError.variant = true ∧
      leftError.message = rightError.message) ∧
    ∃ leftError rightError, circleOfOne.classify = .ok leftError ∧
      circleOfTwo.classify = .ok rightError ∧ leftError.variant = rightError.variant := by
  obtain ⟨byResponse, byChain⟩ := classification_depends_on_status_body_and_chain
  constructor
  · obtain ⟨left, right, leftError, rightError, same⟩ := moved_bucket_retried_same_entries
    cases leftError
    cases rightError
    have status : movedBucket.status? = some 301 := by decide
    obtain ⟨returns, alike⟩ := byResponse movedBucketAttempt movedBucketRetriedAttempt movedBucket
      movedBucketRetried _ _ ⟨rfl, rfl⟩ ⟨rfl, rfl⟩ status (.present same)
    obtain ⟨together, returnsLeft⟩ := returns ⟨⟨_, rfl⟩, _, rfl⟩ ⟨⟨_, rfl⟩, _, rfl⟩
    obtain ⟨leftError, madeLeft⟩ := returnsLeft moved_bucket_showable
    obtain ⟨rightError, madeRight⟩ := together.mp ⟨leftError, madeLeft⟩
    obtain ⟨agreed, _, _, explained⟩ := alike leftError rightError madeLeft madeRight
    exact ⟨leftError, rightError, madeLeft, madeRight, agreed,
      explained status ⟨_, _, rfl, rfl⟩⟩
  · obtain ⟨leftReturns, rightReturns, alike⟩ :=
      byChain circleOfOne circleOfTwo rfl rfl circles_alike
    obtain ⟨leftError, madeLeft⟩ := leftReturns.mpr ⟨⟨_, rfl⟩, _, rfl⟩
    obtain ⟨rightError, madeRight⟩ := rightReturns.mpr ⟨⟨_, rfl⟩, _, rfl⟩
    exact ⟨leftError, rightError, madeLeft, madeRight,
      alike leftError rightError madeLeft madeRight⟩

end Attempt

end ObjectStore
