import Mathlib.Data.Option.Basic
import Mathlib.Data.List.Forall2
import ObjectStore.Proofs.Independence
import ObjectStore.Proofs.MissingTexts

/-!
# Structured logs

The structured log of a classified error names every field, the kind by its word and the cause by
its quoted form. The order of entries does not matter, neither in a log nor in the details inside
it. Two logs are the same exactly when the errors are of one variant, all their fields agree and
their causes are quoted alike, so nothing but the identity of the cause is lost.
-/

namespace ObjectStore

set_option autoImplicit false

namespace Value

/-- Equality up to the order in which the entries of records stand. -/
inductive Same : Value → Value → Prop where
  | refl (value : Value) : Same value value
  | list {left right : List Value} (items : List.Forall₂ Same left right) :
      Same (.list left) (.list right)
  | record {left right : Record}
      (entries : ∀ key, Option.Rel Same (left.value? key) (right.value? key)) :
      Same (.record left) (.record right)

theorem same_text_iff (left right : String) : Same (.text left) (.text right) ↔ left = right := by
  constructor
  · intro same
    cases same
    rfl
  · rintro rfl
    exact .refl _

theorem same_optional_text_iff (left right : Option String) :
    Same (ClassifiedError.optionalText left) (ClassifiedError.optionalText right) ↔
      left = right := by
  constructor
  · intro same
    cases left <;> cases right <;> cases same <;> rfl
  · rintro rfl
    exact .refl _

theorem same_optional_integer_iff (left right : Option Int) :
    Same (ClassifiedError.optionalInteger left) (ClassifiedError.optionalInteger right) ↔
      left = right := by
  constructor
  · intro same
    cases left <;> cases right <;> cases same <;> rfl
  · rintro rfl
    exact .refl _

end Value

namespace Record

def Same (left right : Record) : Prop :=
  ∀ key, Option.Rel Value.Same (left.value? key) (right.value? key)

theorem same_refl (entries : Record) : entries.Same entries := by
  intro key
  cases entries.value? key with
  | none => exact .none
  | some value => exact .some (.refl value)

theorem same_record_iff (left right : Record) :
    Value.Same (.record left) (.record right) ↔ left.Same right := by
  constructor
  · intro same
    cases same with
    | refl => exact same_refl _
    | record entries => exact entries
  · exact .record

theorem value_cons (key : String) (value : Value) (rest : Record) (sought : String) :
    Record.value? ((key, value) :: rest) sought =
      if sought = key then some value else rest.value? sought := by
  by_cases same : sought = key
  · subst same
    simp [Record.value?]
  · rw [Record.value?, List.lookup_cons, beq_eq_false_iff_ne.mpr same, if_neg same]
    rfl

theorem same_cons_iff {key : String} {value other : Value} {left right : Record}
    (absentLeft : left.value? key = none) (absentRight : right.value? key = none) :
    Record.Same ((key, value) :: left) ((key, other) :: right) ↔
      value.Same other ∧ left.Same right := by
  constructor
  · intro same
    constructor
    · have first := same key
      rw [value_cons, value_cons, if_pos rfl, if_pos rfl] at first
      cases first with
      | some alike => exact alike
    · intro sought
      by_cases own : sought = key
      · rw [own, absentLeft, absentRight]
        exact .none
      · have later := same sought
        rw [value_cons, value_cons, if_neg own, if_neg own] at later
        exact later
  · rintro ⟨alike, same⟩ sought
    rw [value_cons, value_cons]
    by_cases own : sought = key
    · rw [if_pos own, if_pos own]
      exact .some alike
    · rw [if_neg own, if_neg own]
      exact same sought

theorem value_text_of_same {left right : Record} {key content : String}
    (found : left.value? key = some (.text content)) (same : left.Same right) :
    right.value? key = some (.text content) := by
  have alike := same key
  rw [found] at alike
  generalize right.value? key = value at alike ⊢
  cases alike with
  | some texts =>
      cases texts
      rfl

def loggedKind? (log : Record) : Option ErrorKind :=
  match log.value? "kind" with
  | some (.text word) => ErrorKind.ofValue? word
  | _ => none

end Record

theorem ErrorKind.value_injective {left right : ErrorKind} (same : left.value = right.value) :
    left = right := by
  have read := congrArg ErrorKind.ofValue? same
  rw [ErrorKind.of_value_value, ErrorKind.of_value_value] at read
  exact Option.some.inj read

namespace Details

theorem value_to_record (details : Details) (key : String) :
    details.toRecord.value? key = (List.lookup key details).map Value.text := by
  induction details with
  | nil => rfl
  | cons entry rest ih =>
      obtain ⟨own, text⟩ := entry
      change Record.value? ((own, .text text) :: Details.toRecord rest) key = _
      rw [Record.value_cons, ih, List.lookup_cons]
      by_cases same : key = own
      · rw [if_pos same, beq_iff_eq.mpr same]
        rfl
      · rw [if_neg same, beq_eq_false_iff_ne.mpr same]

theorem same_to_record_iff (left right : Details) :
    left.toRecord.Same right.toRecord ↔ left.agree right = true := by
  constructor
  · intro same
    apply agree_of_lookup
    intro key
    have alike := same key
    rw [value_to_record, value_to_record] at alike
    generalize List.lookup key left = first at alike ⊢
    generalize List.lookup key right = second at alike ⊢
    cases first <;> cases second <;> cases alike
    · rfl
    · rename_i texts
      rw [(Value.same_text_iff _ _).mp texts]
  · intro agreed key
    rw [value_to_record, value_to_record, lookup_of_agree agreed key]
    cases List.lookup key right with
    | none => exact .none
    | some text => exact .some (.refl _)

end Details

namespace Variant

def ownFields : Variant → Record
  | service code details =>
      [("error_code", ClassifiedError.optionalText code), ("details", .record details.toRecord)]
  | redirect endpoint => [("endpoint", ClassifiedError.optionalText endpoint)]
  | _ => []

def logEnd (variant : Variant) : Record :=
  variant.ownFields ++ [("kind", .text variant.kind.value)]

theorem log_end_kind (variant : Variant) :
    variant.logEnd.value? "kind" = some (.text variant.kind.value) := by
  cases variant <;> rfl

theorem log_end_absent (variant : Variant) (key : String)
    (common : key ∈ ["message", "operation", "cause", "path", "status_code"]) :
    variant.logEnd.value? key = none := by
  simp only [List.mem_cons, List.not_mem_nil, or_false] at common
  rcases common with rfl | rfl | rfl | rfl | rfl <;> cases variant <;> rfl

theorem agree_kind {left right : Variant} (agreed : left.agree right = true) :
    left.kind = right.kind := by
  cases left <;> cases right <;> simp_all [agree, kind]

theorem same_kind_cases {left right : Variant} (same : left.kind = right.kind) :
    (∃ code details otherCode others,
      left = .service code details ∧ right = .service otherCode others) ∨
    (∃ endpoint other, left = .redirect endpoint ∧ right = .redirect other) ∨ left = right := by
  cases left <;> cases right <;> simp_all [kind]

theorem same_service_end_iff (code otherCode : Option String) (details others : Details) :
    (service code details).logEnd.Same (service otherCode others).logEnd ↔
      code = otherCode ∧ details.agree others = true := by
  change Record.Same (("error_code", _) :: ("details", _) :: [("kind", .text "service")])
    (("error_code", _) :: ("details", _) :: [("kind", .text "service")]) ↔ _
  rw [Record.same_cons_iff rfl rfl, Record.same_cons_iff rfl rfl, Value.same_optional_text_iff,
    Record.same_record_iff, Details.same_to_record_iff, and_iff_left (Record.same_refl _)]

theorem same_redirect_end_iff (endpoint other : Option String) :
    (redirect endpoint).logEnd.Same (redirect other).logEnd ↔ endpoint = other := by
  change Record.Same (("endpoint", _) :: [("kind", .text "redirect")])
    (("endpoint", _) :: [("kind", .text "redirect")]) ↔ _
  rw [Record.same_cons_iff rfl rfl, Value.same_optional_text_iff,
    and_iff_left (Record.same_refl _)]

theorem same_log_end_iff (left right : Variant) :
    left.logEnd.Same right.logEnd ↔ left.agree right = true := by
  by_cases kind : left.kind = right.kind
  · rcases same_kind_cases kind with
      ⟨code, details, otherCode, others, rfl, rfl⟩ | ⟨endpoint, other, rfl, rfl⟩ | rfl
    · rw [same_service_end_iff, agree, Bool.and_eq_true, beq_iff_eq]
    · rw [same_redirect_end_iff, agree, beq_iff_eq, redirect.injEq]
      simp
    · exact iff_of_true left.logEnd.same_refl left.agree_self
  · -- The other entries need not be compared: the words for the kinds differ already.
    refine iff_of_false ?_ fun agreed => kind (agree_kind agreed)
    intro same
    have word := Record.value_text_of_same left.log_end_kind same
    rw [log_end_kind, Option.some.injEq, Value.text.injEq] at word
    exact kind (ErrorKind.value_injective word.symm)

end Variant

namespace ClassifiedError

theorem structured_log_eq (error : ClassifiedError) (causeText : String) :
    error.structuredLog causeText =
      ("message", .text error.message) :: ("operation", .text error.operation) ::
        ("cause", .text causeText) :: ("path", optionalText error.path) ::
        ("status_code", optionalInteger error.statusCode) :: error.variant.logEnd := by
  obtain ⟨variant, message, operation, cause, path, statusCode⟩ := error
  cases variant <;> rfl

theorem same_structured_log_iff (left right : ClassifiedError) (causeText otherText : String) :
    (left.structuredLog causeText).Same (right.structuredLog otherText) ↔
      left.message = right.message ∧ left.operation = right.operation ∧ causeText = otherText ∧
        left.path = right.path ∧ left.statusCode = right.statusCode ∧
        left.variant.agree right.variant = true := by
  rw [structured_log_eq, structured_log_eq, Record.same_cons_iff, Record.same_cons_iff,
    Record.same_cons_iff, Record.same_cons_iff, Record.same_cons_iff, Value.same_text_iff,
    Value.same_text_iff, Value.same_text_iff, Value.same_optional_text_iff,
    Value.same_optional_integer_iff, Variant.same_log_end_iff]
  all_goals simp [Record.value_cons, Variant.log_end_absent]

theorem structured_log_kind (error : ClassifiedError) (causeText : String) :
    (error.structuredLog causeText).value? "kind" = some (.text error.kind.value) := by
  rw [structured_log_eq]
  simp [Record.value_cons, Variant.log_end_kind, kind]

theorem logged_kind_of_same {error : ClassifiedError} {causeText : String} {entries : Record}
    (same : (error.structuredLog causeText).Same entries) :
    entries.loggedKind? = some error.kind := by
  rw [Record.loggedKind?, Record.value_text_of_same (error.structured_log_kind causeText) same]
  exact error.kind.of_value_value

theorem agree_iff (left right : ClassifiedError) : left.agree right = true ↔
    left.variant.agree right.variant = true ∧ left.message = right.message ∧
      left.operation = right.operation ∧ left.cause = right.cause ∧ left.path = right.path ∧
      left.statusCode = right.statusCode := by
  simp only [agree, Bool.and_eq_true, beq_iff_eq, and_assoc]

end ClassifiedError

/-- The structured log of an error whose cause was recorded. Like the cause it may have no text. -/
def History.structuredLog (history : History) (error : ClassifiedError) :
    Except TextFault Record :=
  (history.failure error.cause).quoted.map error.structuredLog

theorem History.structured_log_eq_ok_iff (history : History) (error : ClassifiedError)
    (log : Record) : history.structuredLog error = .ok log ↔
      ∃ causeText, (history.failure error.cause).quoted = .ok causeText ∧
        error.structuredLog causeText = log := by
  rw [structuredLog, except_map_eq_ok]

theorem History.structured_logs_same_iff (history : History) (left right : ClassifiedError) :
    (∃ leftLog rightLog, history.structuredLog left = .ok leftLog ∧
      history.structuredLog right = .ok rightLog ∧ leftLog.Same rightLog) ↔
    left.variant.agree right.variant = true ∧ left.message = right.message ∧
      left.operation = right.operation ∧ left.path = right.path ∧
      left.statusCode = right.statusCode ∧
      ∃ causeText, (history.failure left.cause).quoted = .ok causeText ∧
        (history.failure right.cause).quoted = .ok causeText := by
  constructor
  · rintro ⟨leftLog, rightLog, madeLeft, madeRight, same⟩
    obtain ⟨causeText, quoted, rfl⟩ := (history.structured_log_eq_ok_iff left leftLog).mp madeLeft
    obtain ⟨otherText, quotedOther, rfl⟩ :=
      (history.structured_log_eq_ok_iff right rightLog).mp madeRight
    obtain ⟨message, operation, rfl, path, statusCode, variant⟩ :=
      (left.same_structured_log_iff right causeText otherText).mp same
    exact ⟨variant, message, operation, path, statusCode, causeText, quoted, quotedOther⟩
  · rintro ⟨variant, message, operation, path, statusCode, causeText, quoted, quotedOther⟩
    refine ⟨_, _, (history.structured_log_eq_ok_iff left _).mpr ⟨causeText, quoted, rfl⟩,
      (history.structured_log_eq_ok_iff right _).mpr ⟨causeText, quotedOther, rfl⟩, ?_⟩
    exact (left.same_structured_log_iff right causeText causeText).mpr
      ⟨message, operation, rfl, path, statusCode, variant⟩

/-- Two logs can be made and are the same exactly when the errors are of one variant, the fields of
the variant and all other fields agree, and both causes can be quoted and are quoted alike. A log,
in whatever order its entries stand, tells the kind and so the variant. The logs of equal errors are
the same, or neither can be made. -/
theorem History.structured_logs_lose_identity_only (history : History) :
    (∀ left right : ClassifiedError,
      (∃ leftLog rightLog, history.structuredLog left = .ok leftLog ∧
        history.structuredLog right = .ok rightLog ∧ leftLog.Same rightLog) ↔
      left.variant.agree right.variant = true ∧ left.message = right.message ∧
        left.operation = right.operation ∧ left.path = right.path ∧
        left.statusCode = right.statusCode ∧
        ∃ causeText, (history.failure left.cause).quoted = .ok causeText ∧
          (history.failure right.cause).quoted = .ok causeText) ∧
    (∀ (error : ClassifiedError) (log entries : Record), history.structuredLog error = .ok log →
      log.Same entries → entries.loggedKind? = some error.kind) ∧
    ∀ left right : ClassifiedError, left.agree right = true →
      (∃ leftLog rightLog, history.structuredLog left = .ok leftLog ∧
        history.structuredLog right = .ok rightLog ∧ leftLog.Same rightLog) ∨
      ∃ fault, history.structuredLog left = .error fault ∧
        history.structuredLog right = .error fault := by
  refine ⟨history.structured_logs_same_iff, ?_, ?_⟩
  · intro error log entries made same
    obtain ⟨causeText, _, rfl⟩ := (history.structured_log_eq_ok_iff error log).mp made
    exact ClassifiedError.logged_kind_of_same same
  · intro left right agreed
    obtain ⟨variant, message, operation, cause, path, statusCode⟩ :=
      (left.agree_iff right).mp agreed
    cases quoted : (history.failure left.cause).quoted with
    | ok causeText =>
        left
        apply (history.structured_logs_same_iff left right).mpr
        exact ⟨variant, message, operation, path, statusCode, causeText, quoted, cause ▸ quoted⟩
    | error fault =>
        right
        rw [structuredLog, structuredLog, ← cause, quoted]
        exact ⟨fault, rfl, rfl⟩

def repeatedMissingKey : History :=
  let missing : Failure := { className := "KeyError", wording := .missingKey (.text "k") }
  (History.empty.record (.fresh missing)).record (.fresh missing)

def throttledBy (cause : FailureId) (details : Details) : ClassifiedError where
  variant := .service (some "SlowDown") details
  message := "put on b/k: slow down"
  operation := "put"
  cause := cause
  path := some "b/k"
  statusCode := some 503

/-- With another order of the details the error is equal. With another cause it is not, but the
logs are still the same, and they tell that it is a service error. -/
theorem reordered_details_are_logged_alike :
    (throttledBy 0 [("Bucket", "b"), ("HostId", "h")]).agree
        (throttledBy 0 [("HostId", "h"), ("Bucket", "b")]) = true ∧
      (∃ leftLog rightLog,
        repeatedMissingKey.structuredLog (throttledBy 0 [("Bucket", "b"), ("HostId", "h")]) =
          .ok leftLog ∧
        repeatedMissingKey.structuredLog (throttledBy 0 [("HostId", "h"), ("Bucket", "b")]) =
          .ok rightLog ∧ leftLog.Same rightLog) ∧
      (throttledBy 0 [("Bucket", "b")]).agree (throttledBy 1 [("Bucket", "b")]) = false ∧
      ∃ leftLog rightLog,
        repeatedMissingKey.structuredLog (throttledBy 0 [("Bucket", "b")]) = .ok leftLog ∧
        repeatedMissingKey.structuredLog (throttledBy 1 [("Bucket", "b")]) = .ok rightLog ∧
        leftLog.Same rightLog ∧ rightLog.loggedKind? = some .service := by
  obtain ⟨same, kinds, equal⟩ := repeatedMissingKey.structured_logs_lose_identity_only
  have reordered : (throttledBy 0 [("Bucket", "b"), ("HostId", "h")]).agree
      (throttledBy 0 [("HostId", "h"), ("Bucket", "b")]) = true := by decide
  obtain ⟨leftLog, rightLog, madeLeft, madeRight, alike⟩ :=
    (same (throttledBy 0 [("Bucket", "b")]) (throttledBy 1 [("Bucket", "b")])).mpr
      ⟨by decide, rfl, rfl, rfl, rfl, _, rfl, rfl⟩
  refine ⟨reordered, (equal _ _ reordered).resolve_right ?_, by decide, leftLog, rightLog,
    madeLeft, madeRight, alike, kinds _ leftLog rightLog madeLeft alike⟩
  rintro ⟨fault, refused, _⟩
  cases refused

end ObjectStore
