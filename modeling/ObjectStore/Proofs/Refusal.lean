import ObjectStore.Proofs.CodeReading
import ObjectStore.Proofs.Verdict

/-!
# Why a failure cannot be classified

Three texts may be needed: the label of the path, the text of the failure, and the details of the
body where they become part of the error. A failure is refused exactly when one of them cannot be
made, and for the first of them. Whatever a status or a code looks like, it is no reason.
-/

namespace ObjectStore

set_option autoImplicit false

/-- The body of a rejected call is read to the end, unless the status alone says what happened. -/
structure Response.NeedsDetails (response : Response) (entries : Record) : Prop where
  body : response.HasBody entries
  status : response.status? ∉ [some 401, some 403, some 404, some 410, some 416]

/-- Why a failure cannot be classified: the first text on the way that cannot be made. -/
inductive History.Refuses (history : History) (path : Path) (id : FailureId) :
    ClassificationFault → Prop where
  | unlabelled (fault : ClassificationFault) (missing : path.Unlabelled fault) :
      Refuses history path id fault
  | untold (label : Option String) (fault : TextFault) (labelled : path.label? = .ok label)
      (missing : (history.failure id).text = .error fault) : Refuses history path id (.text fault)
  | undetailed (label : Option String) (failureText : String)
      (response : Response) (entries : Record) (key : String) (value : Value)
      (labelled : path.label? = .ok label) (told : (history.failure id).text = .ok failureText)
      (found : (history.failure id).response = some response)
      (needed : response.NeedsDetails entries) (entry : (key, value) ∈ entries)
      (detail : key ≠ "Code" ∧ key ≠ "Message") (long : value.HoldsLongInteger) :
      Refuses history path id (.text .integerTooLong)

theorem FailsWhen.map {first second : Type} {condition : Prop} {step : Except TextFault first}
    (fails : FailsWhen condition step) (finish : first → second) :
    FailsWhen condition (step.map finish) := by
  intro fault
  rw [except_map_eq_error, fails fault]

theorem not_leading_iff (key : String) :
    isLeadingKey key = false ↔ key ≠ "Code" ∧ key ≠ "Message" := by
  simp [isLeadingKey]

theorem response_variant_bodiless (meaning : StatusMeaning) :
    FailsWhen False (responseVariant meaning none) := by
  cases meaning <;> exact fails_never _

/-- The code has been shown before, so only the details are left to fail. -/
theorem response_variant_other_fails {entries : Record} {code : String}
    (shown : (Record.code entries).shown = .ok code) :
    FailsWhen (∃ entry ∈ entries, isLeadingKey entry.1 = false ∧ entry.2.HoldsLongInteger)
      (responseVariant .other (some entries)) := by
  change FailsWhen _ ((Record.code entries).shown >>= fun code =>
    detailsOf entries >>= fun details => .ok (Variant.service (some code) details))
  rw [shown]
  exact (details_of_fail entries).bind_ok _

theorem response_variant_fails (status : Option Int) {entries : Record} {code : String}
    (shown : (Record.code entries).shown = .ok code) :
    FailsWhen (status ∉ [some 401, some 403, some 404, some 410, some 416] ∧
        ∃ entry ∈ entries, isLeadingKey entry.1 = false ∧ entry.2.HoldsLongInteger)
      (responseVariant (.ofStatus status) (some entries)) := by
  unfold StatusMeaning.ofStatus
  split
  case h_1 => exact ((details_of_fail entries).bind_ok _).congr (by simp)
  case h_7 => exact (response_variant_other_fails shown).congr (by simp_all)
  -- The other statuses say all that there is to say, and the body is not read.
  all_goals exact (fails_never _).congr (by simp)

/-- Once a rejected call has told of itself, only the details can keep it from being judged. -/
theorem History.verdict_fails {history : History} {id : FailureId} {failureText : String}
    {response : Response} (told : (history.failure id).text = .ok failureText)
    (found : (history.failure id).response = some response) :
    FailsWhen (∃ entries, response.NeedsDetails entries ∧
        ∃ entry ∈ entries, isLeadingKey entry.1 = false ∧ entry.2.HoldsLongInteger)
      (history.verdict id) := by
  obtain ⟨body, read⟩ := Failure.body_of_text found told
  rw [verdict_service found read]
  apply FailsWhen.map
  have isBody : ∀ entries, response.HasBody entries ↔ body = some entries := by
    intro entries
    rw [← response.body_iff_has_body entries, read]
    simp
  cases body with
  | none =>
      refine (response_variant_bodiless _).congr ⟨False.elim, ?_⟩
      rintro ⟨entries, needed, _⟩
      cases (isBody entries).mp needed.body
  | some entries =>
      have present := (isBody entries).mpr rfl
      obtain ⟨value, code, given, _, shown, _⟩ := present.code
      have codeShown : (Record.code entries).shown = .ok code := by
        rw [Record.code, given]
        exact shown
      refine (response_variant_fails response.status? codeShown).congr ⟨?_, ?_⟩
      · rintro ⟨status, long⟩
        exact ⟨entries, ⟨present, status⟩, long⟩
      · rintro ⟨others, needed, long⟩
        obtain rfl : entries = others := Option.some.inj ((isBody others).mp needed.body)
        exact ⟨needed.status, long⟩

theorem History.classify_unlabelled (history : History) (operation : String) {path : Path}
    (id : FailureId) {fault : ClassificationFault} (missing : path.Unlabelled fault) :
    history.classify operation path id = .error fault := by
  rw [classify, (path.label_error_iff fault).mpr missing]
  rfl

theorem History.classify_untold (history : History) (operation : String) {path : Path}
    {label : Option String} {id : FailureId} {fault : TextFault}
    (labelled : path.label? = .ok label) (missing : (history.failure id).text = .error fault) :
    history.classify operation path id = .error (.text fault) := by
  rw [classify, labelled, missing]
  rfl

/-- With a label and a text a failure is refused for what the verdict lacks. -/
theorem History.classify_error_iff_verdict (history : History) (operation : String) {path : Path}
    {label : Option String} {id : FailureId} {failureText : String}
    (labelled : path.label? = .ok label)
    (told : (history.failure id).text = .ok failureText) (fault : ClassificationFault) :
    history.classify operation path id = .error fault ↔
      ∃ missing, history.verdict id = .error missing ∧ .text missing = fault := by
  rw [history.classify_eq_verdict operation path label id failureText labelled told,
    except_map_eq_error, except_map_error_eq_error]

theorem History.refuses_of_verdict {history : History} {path : Path} {label : Option String}
    {id : FailureId} {failureText : String} {missing : TextFault}
    (labelled : path.label? = .ok label) (told : (history.failure id).text = .ok failureText)
    (undecided : history.verdict id = .error missing) :
    history.Refuses path id (.text missing) := by
  cases answered : (history.failure id).isService with
  | false =>
      rw [verdict_plain answered] at undecided
      cases undecided
  | true =>
      obtain ⟨response, found⟩ := (is_service_iff _).mp answered
      obtain ⟨rfl, entries, needed, ⟨key, value⟩, entry, detail, long⟩ :=
        (history.verdict_fails told found missing).mp undecided
      exact .undetailed label failureText response entries key value labelled told found needed
        entry ((not_leading_iff key).mp detail) long

theorem History.classify_eq_error_iff (history : History) (operation : String) (path : Path)
    (id : FailureId) (fault : ClassificationFault) :
    history.classify operation path id = .error fault ↔ history.Refuses path id fault := by
  constructor
  · intro refused
    cases labelled : path.label? with
    | error reason =>
        have missing := (path.label_error_iff reason).mp labelled
        rw [history.classify_unlabelled operation id missing] at refused
        cases refused
        exact .unlabelled fault missing
    | ok label =>
        cases told : (history.failure id).text with
        | error reason =>
            rw [history.classify_untold operation labelled told] at refused
            cases refused
            exact .untold label reason labelled told
        | ok failureText =>
            obtain ⟨missing, undecided, rfl⟩ :=
              (history.classify_error_iff_verdict operation labelled told fault).mp refused
            exact history.refuses_of_verdict labelled told undecided
  · intro refuses
    cases refuses with
    | unlabelled _ missing => exact history.classify_unlabelled operation id missing
    | untold _ _ labelled missing => exact history.classify_untold operation labelled missing
    | undetailed label failureText response entries key value labelled told found needed entry
        detail long =>
        apply (history.classify_error_iff_verdict operation labelled told _).mpr
        refine ⟨_, (history.verdict_fails told found _).mpr ⟨rfl, ?_⟩, rfl⟩
        exact ⟨entries, needed, (key, value), entry, (not_leading_iff key).mpr detail, long⟩

theorem Journal.classify_eq_error_iff (journal : Journal) (operation : String) (path : Path)
    (id : FailureId) (fault : ClassificationFault) :
    journal.classify operation path id = .error fault ↔ journal.history.Refuses path id fault := by
  rw [← journal.history.classify_eq_error_iff operation path id fault, Journal.classify]
  cases journal.history.classify operation path id <;> simp [bind, Except.bind, pure, Except.pure]

/-- Whatever is not the fault of a long integer is that of the path. -/
theorem History.Refuses.of_path {history : History} {path : Path} {id : FailureId}
    {fault : ClassificationFault} (refuses : history.Refuses path id fault)
    (other : fault ≠ .text .integerTooLong) : path.Unlabelled fault := by
  cases refuses with
  | unlabelled _ missing => exact missing
  | untold _ reason => exact absurd rfl other
  | undetailed => exact absurd rfl other

/-- Only the path raises failures of its own instead of a classified error. -/
theorem History.Refuses.raised_by_path {history : History} {path : Path}
    {id : FailureId} {own : Failure} (refuses : history.Refuses path id (.raised own)) :
    path = .raising own := by
  cases refuses.of_path (by simp) with
  | raising => rfl

theorem History.Refuses.plain_or_own {history : History} {path : Path} {id : FailureId}
    {fault : ClassificationFault} (refuses : history.Refuses path id fault) :
    fault.failure.isFromClient = false ∧ fault.failure.isStorage = false ∨
      path = .raising fault.failure := by
  cases fault with
  | text reason => exact Or.inl ⟨rfl, rfl⟩
  | notPathText holder found => exact Or.inl ⟨rfl, rfl⟩
  | raised own => exact Or.inr refuses.raised_by_path

/-- All texts that a failure has to give can be made: its own, and those of the details where
details are needed. -/
structure Failure.Describable (failure : Failure) : Prop where
  told : ∃ failureText, failure.text = .ok failureText
  details : ∀ response entries,
    failure.response = some response → response.NeedsDetails entries →
      ∀ key value, (key, value) ∈ entries → key ≠ "Code" → key ≠ "Message" →
        ¬value.HoldsLongInteger

theorem History.describable_iff_not_refused {history : History} {path : Path}
    {label : Option String} {id : FailureId} (labelled : path.label? = .ok label) :
    (history.failure id).Describable ↔ ∀ fault, ¬history.Refuses path id fault := by
  constructor
  · intro describable fault refuses
    cases refuses with
    | unlabelled _ missing =>
        rw [(path.label_error_iff fault).mpr missing] at labelled
        cases labelled
    | untold _ _ _ missing =>
        obtain ⟨failureText, told⟩ := describable.told
        rw [missing] at told
        cases told
    | undetailed _ _ response entries key value _ _ found needed entry detail long =>
        exact describable.details response entries found needed key value entry detail.1 detail.2
          long
  · intro noReason
    cases told : (history.failure id).text with
    | error fault => exact absurd (.untold label fault labelled told) (noReason (.text fault))
    | ok failureText =>
        refine ⟨⟨failureText, told⟩, ?_⟩
        intro response entries found needed key value entry notCode notMessage long
        exact noReason _ (.undetailed label failureText response entries key value labelled told
          found needed entry ⟨notCode, notMessage⟩ long)

theorem except_returns_iff {fault result : Type} (step : Except fault result) :
    (∃ value, step = .ok value) ↔ ∀ reason, step ≠ .error reason := by
  cases step <;> simp

theorem History.classify_returns_iff (history : History) (operation : String) {path : Path}
    {label : Option String} {id : FailureId} (labelled : path.label? = .ok label) :
    (∃ error, history.classify operation path id = .ok error) ↔
      (history.failure id).Describable := by
  rw [except_returns_iff, History.describable_iff_not_refused labelled]
  exact forall_congr' fun fault =>
    not_congr (history.classify_eq_error_iff operation path id fault)

/-- Classification fails exactly when a text that it needs cannot be made, and for the first of
these: the label, the text of the failure, a detail of the body where details count. So under a
path with a label every failure is classified that can be described, whatever its status and its
code look like. -/
theorem classification_fails_for_missing_texts (history : History) (operation : String)
    (path : Path) (id : FailureId) :
    (∀ fault, history.classify operation path id = .error fault ↔
      history.Refuses path id fault) ∧
    (∀ fault, fault ≠ .text .integerTooLong →
      (history.classify operation path id = .error fault ↔ path.Unlabelled fault)) ∧
    (∀ fault, (history.failure id).text = .error fault ↔
      fault = .integerTooLong ∧ (history.failure id).ShowsLongInteger) ∧
    ∀ label, path.label? = .ok label →
      ((∃ error, history.classify operation path id = .ok error) ↔
        (history.failure id).Describable) := by
  have byReason := history.classify_eq_error_iff operation path id
  refine ⟨byReason, ?_, (history.failure id).text_fails, ?_⟩
  · intro fault other
    rw [byReason]
    exact ⟨fun refuses => refuses.of_path other, .unlabelled _⟩
  · intro label labelled
    exact history.classify_returns_iff operation labelled

/-- The smallest integer that is never written. -/
def longInteger : Value := .integer (Int.ofNat (Nat.pow 10 Text.digitLimit))

theorem long_natural (magnitude : Nat)
    (long : Text.digitLimit < (Nat.toDigits 10 magnitude).length) :
    (Value.integer (Int.ofNat magnitude)).HoldsLongInteger :=
  .integer _ long

theorem long_integer_long : (Value.list [longInteger]).HoldsLongInteger := by
  refine .item _ longInteger List.mem_cons_self ?_
  exact long_natural _ (pow_long Text.digitLimit (by decide))

def unshownEndpoint (status : Int) : Response where
  error := some [("Code", .text "PermanentRedirect"), ("Message", .text "moved"),
    ("Endpoint", .list [longInteger])]
  metadata := some [("HTTPStatusCode", .integer status)]

def unshownEndpointHistory : History :=
  (History.empty.record
    (.fresh (.ofResponse "ClientError" (unshownEndpoint 301) movedBucketText))).record
      (.fresh (.ofResponse "ClientError" (unshownEndpoint 404) movedBucketText))

/-- The endpoint matters for a redirect and not for a missing object, and nothing matters where the
path gives a number. -/
theorem unshown_endpoint_refused :
    unshownEndpointHistory.classify "getObject" (.text "data/key") 0 =
        .error (.text .integerTooLong) ∧
      (∃ error, unshownEndpointHistory.classify "getObject" (.text "data/key") 1 = .ok error) ∧
      unshownEndpointHistory.classify "getObject" (.object "Label" longInteger) 0 =
        .error (.notPathText "Label" "int") := by
  obtain ⟨redirect, _⟩ := classification_fails_for_missing_texts unshownEndpointHistory
    "getObject" (.text "data/key") 0
  obtain ⟨_, _, _, missing⟩ := classification_fails_for_missing_texts unshownEndpointHistory
    "getObject" (.text "data/key") 1
  obtain ⟨_, misgiven, _⟩ := classification_fails_for_missing_texts unshownEndpointHistory
    "getObject" (.object "Label" longInteger) 0
  refine ⟨(redirect _).mpr ?_, (missing (some "data/key") rfl).mpr ⟨⟨movedBucketText, rfl⟩, ?_⟩,
    (misgiven _ (by simp)).mpr ?_⟩
  · have body : (unshownEndpoint 301).HasBody _ :=
      ⟨rfl, List.cons_ne_nil _ _, .text "PermanentRedirect", "PermanentRedirect", rfl, rfl, rfl,
        by decide⟩
    exact .undetailed (some "data/key") movedBucketText
      (unshownEndpoint 301) _ "Endpoint" (.list [longInteger]) rfl rfl rfl ⟨body, by decide⟩
      (by simp) (by decide) long_integer_long
  · intro response entries found needed
    cases found
    exact absurd (by decide) needed.status
  · refine .misgiven "Label" longInteger ?_ ?_
    · intro content same
      cases same
    · intro content same
      cases same

end ObjectStore
