import ObjectStore.Failure
import ObjectStore.Path
import ObjectStore.Response.Body

/-!
# Texts that cannot be made

A value has no text exactly when an integer of too many digits stands somewhere in it. A path has no
label when it is such a value, or when it is an object that gives neither text nor bytes or raises a
failure. Failures and the details of a body show values, so for them a long integer is the only
reason, unless a failure has a text of its own that is missing.
-/

namespace ObjectStore

set_option autoImplicit false

theorem except_map_eq_error {fault first second : Type} (step : Except fault first)
    (change : first → second) (reason : fault) :
    step.map change = .error reason ↔ step = .error reason := by
  cases step <;> simp [Except.map]

theorem except_map_eq_ok {fault first second : Type} (step : Except fault first)
    (change : first → second) (result : second) :
    step.map change = .ok result ↔ ∃ value, step = .ok value ∧ change value = result := by
  cases step <;> simp [Except.map]

theorem except_map_error_eq_error {fault other result : Type} (step : Except fault result)
    (outer : fault → other) (reason : other) :
    step.mapError outer = .error reason ↔
      ∃ first, step = .error first ∧ outer first = reason := by
  cases step with
  | error first =>
      change Except.error (outer first) = Except.error reason ↔ _
      simp
  | ok value =>
      change Except.ok value = Except.error reason ↔ _
      simp

/-- A step towards a text fails exactly under the condition, and for a long integer. -/
def FailsWhen {result : Type} (condition : Prop) (step : Except TextFault result) : Prop :=
  ∀ fault, step = .error fault ↔ fault = .integerTooLong ∧ condition

theorem fails_never {result : Type} (value : result) : FailsWhen False (.ok value) := by
  intro fault
  simp

theorem FailsWhen.congr {result : Type} {condition other : Prop} {step : Except TextFault result}
    (fails : FailsWhen condition step) (same : condition ↔ other) : FailsWhen other step := by
  intro fault
  rw [fails fault, same]

/-- Of two steps the second is only made when the first has not failed. -/
theorem FailsWhen.bind {first second : Type} {before after : Prop}
    {step : Except TextFault first} {next : first → Except TextFault second}
    (fails : FailsWhen before step) (later : ∀ value, FailsWhen after (next value)) :
    FailsWhen (before ∨ after) (step >>= next) := by
  intro fault
  cases made : step with
  | error reason =>
      obtain ⟨rfl, failed⟩ := (fails reason).mp made
      constructor
      · intro same
        cases same
        exact ⟨rfl, Or.inl failed⟩
      · rintro ⟨rfl, _⟩
        rfl
  | ok value =>
      have held : ¬before := by
        intro failed
        have refused := (fails .integerTooLong).mpr ⟨rfl, failed⟩
        rw [made] at refused
        cases refused
      change next value = .error fault ↔ _
      rw [later value fault, or_iff_right held]

/-- What is made of a finished text cannot fail. -/
theorem FailsWhen.bind_ok {first second : Type} {condition : Prop} {step : Except TextFault first}
    (fails : FailsWhen condition step) (finish : first → second) :
    FailsWhen condition (step >>= fun value => .ok (finish value)) :=
  (fails.bind fun value => fails_never (finish value)).congr (by simp)

theorem FailsWhen.returns {result : Type} {condition : Prop} {step : Except TextFault result}
    (fails : FailsWhen condition step) (absent : ¬condition) : ∃ value, step = .ok value := by
  cases made : step with
  | error fault => exact absurd ((fails fault).mp made).2 absent
  | ok value => exact ⟨value, rfl⟩

theorem long_iff_not_lt_pow (limit magnitude : Nat) (positive : 0 < limit) :
    limit < (Nat.toDigits 10 magnitude).length ↔ ¬magnitude < Nat.pow 10 limit := by
  rw [← Nat.not_le]
  exact not_congr (Nat.length_toDigits_le_iff (by decide) positive)

theorem pow_long (limit : Nat) (positive : 0 < limit) :
    limit < (Nat.toDigits 10 (Nat.pow 10 limit)).length :=
  (long_iff_not_lt_pow limit _ positive).mpr (Nat.lt_irrefl _)

theorem integer_text_fails (number : Int) :
    FailsWhen (Text.digitLimit < (Nat.toDigits 10 number.natAbs).length) (integerText number) := by
  intro fault
  have positive : 0 < Text.digitLimit := by decide
  rw [long_iff_not_lt_pow Text.digitLimit number.natAbs positive]
  unfold integerText Text.integerText?
  by_cases fits : number.natAbs < Nat.pow 10 Text.digitLimit
  · rw [if_pos fits]
    constructor
    · intro impossible
      cases impossible
    · intro refused
      exact absurd fits refused.2
  · rw [if_neg fits]
    constructor
    · intro refused
      cases refused
      exact ⟨rfl, fits⟩
    · intro refused
      rw [refused.1]

namespace Value

/-- An integer of more digits than are ever written, alone or inside lists and records. -/
inductive HoldsLongInteger : Value → Prop where
  | integer (number : Int) (long : Text.digitLimit < (Nat.toDigits 10 number.natAbs).length) :
      HoldsLongInteger (.integer number)
  | item (items : List Value) (value : Value) (member : value ∈ items)
      (within : HoldsLongInteger value) : HoldsLongInteger (.list items)
  | entry (entries : Record) (key : String) (value : Value) (member : (key, value) ∈ entries)
      (within : HoldsLongInteger value) : HoldsLongInteger (.record entries)

theorem holds_long_integer_list (items : List Value) :
    (∃ item ∈ items, item.HoldsLongInteger) ↔ (Value.list items).HoldsLongInteger := by
  constructor
  · rintro ⟨value, member, within⟩
    exact .item items value member within
  · intro holds
    cases holds with
    | item _ value member within => exact ⟨value, member, within⟩

theorem holds_long_integer_record (entries : Record) :
    (∃ entry ∈ entries, entry.2.HoldsLongInteger) ↔ (Value.record entries).HoldsLongInteger := by
  constructor
  · rintro ⟨⟨key, value⟩, member, within⟩
    exact .entry entries key value member within
  · intro holds
    cases holds with
    | entry _ key value member within => exact ⟨(key, value), member, within⟩

mutual

theorem quoted_fails (value : Value) : FailsWhen value.HoldsLongInteger value.quoted := by
  cases value with
  | integer number =>
      rw [quoted]
      refine (integer_text_fails number).congr ⟨.integer number, ?_⟩
      intro holds
      cases holds
      assumption
  | list items =>
      rw [quoted]
      exact ((quoted_items_fails items).bind_ok _).congr (holds_long_integer_list items)
  | record entries =>
      rw [quoted]
      exact ((quoted_entries_fails entries).bind_ok _).congr (holds_long_integer_record entries)
  | _ =>
      rw [quoted]
      refine (fails_never _).congr ⟨False.elim, ?_⟩
      intro holds
      cases holds

theorem quoted_items_fails (items : List Value) :
    FailsWhen (∃ item ∈ items, item.HoldsLongInteger) (quotedItems items) := by
  cases items with
  | nil =>
      rw [quotedItems]
      exact (fails_never _).congr (by simp)
  | cons item rest =>
      rw [quotedItems]
      refine ((quoted_fails item).bind fun _ => (quoted_items_fails rest).bind_ok _).congr ?_
      simp

theorem quoted_entries_fails (entries : Record) :
    FailsWhen (∃ entry ∈ entries, entry.2.HoldsLongInteger) (quotedEntries entries) := by
  cases entries with
  | nil =>
      rw [quotedEntries]
      exact (fails_never _).congr (by simp)
  | cons entry rest =>
      obtain ⟨key, value⟩ := entry
      rw [quotedEntries]
      refine ((quoted_fails value).bind fun _ => (quoted_entries_fails rest).bind_ok _).congr ?_
      simp

end

theorem shown_fails (value : Value) : FailsWhen value.HoldsLongInteger value.shown := by
  cases value with
  | text content =>
      refine (fails_never content).congr ⟨False.elim, ?_⟩
      intro holds
      cases holds
  | _ => exact quoted_fails _

/-- What is not given counts as nothing, and nothing is always shown. -/
theorem shown_given_fails (given : Option Value) (standIn : Value)
    (short : ¬standIn.HoldsLongInteger) :
    FailsWhen (∃ value, given = some value ∧ value.HoldsLongInteger)
      (given.getD standIn).shown := by
  refine (shown_fails _).congr ?_
  cases given with
  | none => simp [short]
  | some value => simp

end Value

theorem quoted_arguments_fail (values : List Value) :
    FailsWhen (∃ value ∈ values, value.HoldsLongInteger) (quotedArguments values) :=
  (Value.quoted_items_fails values).bind_ok _

theorem details_of_fail (entries : Record) :
    FailsWhen (∃ entry ∈ entries, isLeadingKey entry.1 = false ∧ entry.2.HoldsLongInteger)
      (detailsOf entries) := by
  induction entries with
  | nil => exact (fails_never _).congr (by simp)
  | cons entry rest ih =>
      obtain ⟨key, value⟩ := entry
      unfold detailsOf
      cases leading : isLeadingKey key with
      | true =>
          simp only [if_true]
          exact ih.congr (by simp [leading])
      | false =>
          simp only [Bool.false_eq_true, if_false]
          exact ((Value.shown_fails value).bind fun _ => ih.bind_ok _).congr (by simp [leading])

namespace Response

theorem quoted_code_fails (response : Response) :
    FailsWhen (∃ value, response.errorEntry? "Code" = some value ∧ value.HoldsLongInteger)
      response.quotedCode := by
  apply Value.shown_given_fails
  intro holds
  cases holds

/-- To tell a body from a repeated status the code has to be shown. -/
theorem body_fails (response : Response) :
    FailsWhen (∃ value, response.errorEntry? "Code" = some value ∧ value.truthy = true ∧
      value.HoldsLongInteger) response.body? := by
  unfold body?
  cases error : response.error with
  | none => exact (fails_never _).congr (by simp [Response.errorEntry?, error])
  | some entries =>
      have entry : response.errorEntry? "Code" = entries.value? "Code" := by
        rw [Response.errorEntry?, error, Option.bind_some]
      rw [entry]
      cases code : entries.value? "Code" with
      | none =>
          have read : Record.code entries = .null := by rw [Record.code, code, Option.getD_none]
          simp only [read, Value.truthy, Bool.false_eq_true, if_false]
          exact (fails_never _).congr (by simp)
      | some value =>
          have read : Record.code entries = value := by rw [Record.code, code, Option.getD_some]
          cases truthy : value.truthy with
          | false =>
              simp only [read, truthy, Bool.false_eq_true, if_false]
              exact (fails_never _).congr (by simp [truthy])
          | true =>
              simp only [read, truthy, if_true]
              exact ((Value.shown_fails value).bind_ok _).congr (by simp [truthy])

end Response

namespace Wording

/-- The values that a wording shows have a long integer among them, or its own text is missing. A
system failure with a number shows no more than the first two of its arguments, and the files it
concerns. -/
def ShowsLongInteger : Wording → Prop
  | .arguments values => ∃ value ∈ values, value.HoldsLongInteger
  | .missingKey key => key.HoldsLongInteger
  | .system values files =>
      (∃ value ∈ if values.length ≤ 5 then values.take 2 else values,
        value.HoldsLongInteger) ∨
      ∃ concerned, files = some concerned ∧ (concerned.1.HoldsLongInteger ∨
        ∃ value, concerned.2 = some value ∧ value.HoldsLongInteger)
  | .group message _ => message.HoldsLongInteger
  | .own text _ => text = .error .integerTooLong

theorem arguments_text_fails (arguments : List Value) :
    FailsWhen (∃ value ∈ arguments, value.HoldsLongInteger) (argumentsText arguments) := by
  match arguments with
  | [] => exact (fails_never _).congr (by simp)
  | [value] => exact (Value.shown_fails value).congr (by simp)
  | first :: second :: rest => exact quoted_arguments_fail (first :: second :: rest)

theorem error_number_text_fails (arguments : List Value) :
    FailsWhen (∃ value ∈ if arguments.length ≤ 5 then arguments.take 2 else arguments,
      value.HoldsLongInteger) (errorNumberText arguments) := by
  unfold errorNumberText
  by_cases few : arguments.length ≤ 5
  · simp only [few, if_true]
    match arguments with
    | [] => exact arguments_text_fails []
    | [value] => exact arguments_text_fails [value]
    | number :: meaning :: _ =>
        refine ((Value.shown_fails number).bind fun _ =>
          (Value.shown_fails meaning).bind_ok _).congr ?_
        simp
  · simp only [few, if_false]
    exact arguments_text_fails arguments

theorem system_text_fails (arguments : List Value) (files : Option (Value × Option Value)) :
    FailsWhen ((∃ value ∈ if arguments.length ≤ 5 then arguments.take 2 else arguments,
        value.HoldsLongInteger) ∨
      ∃ concerned, files = some concerned ∧ (concerned.1.HoldsLongInteger ∨
        ∃ value, concerned.2 = some value ∧ value.HoldsLongInteger))
      (systemText arguments files) := by
  match files with
  | none => exact (error_number_text_fails arguments).congr (by simp)
  | some (file, none) =>
      refine ((error_number_text_fails arguments).bind fun _ =>
        (Value.quoted_fails file).bind_ok _).congr ?_
      simp
  | some (file, some target) =>
      refine ((error_number_text_fails arguments).bind fun _ =>
        (Value.quoted_fails file).bind fun _ =>
          (Value.quoted_fails target).bind_ok _).congr ?_
      simp

theorem text_fails (wording : Wording) : FailsWhen wording.ShowsLongInteger wording.text := by
  cases wording with
  | arguments values => exact arguments_text_fails values
  | missingKey key => exact key.quoted_fails
  | system arguments files => exact system_text_fails arguments files
  | group message members => exact message.shown_fails.bind_ok _
  | own text quoted =>
      rintro ⟨⟩
      exact (and_iff_right (a := TextFault.integerTooLong = .integerTooLong) rfl).symm

end Wording

namespace Failure

/-- What a failure has to show holds a long integer: its wording, or the code of the response that
it reports. -/
def ShowsLongInteger (failure : Failure) : Prop :=
  (∃ response value, failure.response = some response ∧
    response.errorEntry? "Code" = some value ∧ value.HoldsLongInteger) ∨
    failure.wording.ShowsLongInteger

/-- A failure has no text exactly when that would show a long integer. -/
theorem text_fails (failure : Failure) : FailsWhen failure.ShowsLongInteger failure.text := by
  unfold text ShowsLongInteger
  cases failure.response with
  | none => exact failure.wording.text_fails.congr (by simp)
  | some response =>
      exact (response.quoted_code_fails.bind fun _ => failure.wording.text_fails).congr (by simp)

end Failure

namespace Path

inductive Unlabelled : Path → ClassificationFault → Prop where
  | misgiven (holder : String) (given : Value) (noText : ∀ content, given ≠ .text content)
      (noBytes : ∀ content, given ≠ .bytes content) :
      Unlabelled (.object holder given) (.notPathText holder given.typeName)
  | raising (failure : Failure) : Unlabelled (.raising failure) (.raised failure)
  | unshown (value : Value) (long : value.HoldsLongInteger) :
      Unlabelled (.other value) (.text .integerTooLong)

theorem label_error_iff (path : Path) (fault : ClassificationFault) :
    path.label? = .error fault ↔ path.Unlabelled fault := by
  constructor
  · intro refused
    match path with
    | .object holder given =>
        cases given with
        | text content => cases refused
        | bytes content => cases refused
        | _ =>
            cases refused
            exact .misgiven holder _ (by simp) (by simp)
    | .raising failure =>
        cases refused
        exact .raising failure
    | .other value =>
        have unshown := (except_map_eq_error _ some fault).mp refused
        obtain ⟨reason, missing, rfl⟩ := (except_map_error_eq_error value.shown _ fault).mp unshown
        obtain ⟨rfl, long⟩ := (value.shown_fails reason).mp missing
        exact .unshown value long
  · intro unlabelled
    cases unlabelled with
    | misgiven holder given noText noBytes =>
        cases given with
        | text content => exact absurd rfl (noText content)
        | bytes content => exact absurd rfl (noBytes content)
        | _ => rfl
    | raising failure => rfl
    | unshown value long =>
        have missing := (value.shown_fails .integerTooLong).mpr ⟨rfl, long⟩
        rw [label?, missing]
        rfl

end Path

end ObjectStore
