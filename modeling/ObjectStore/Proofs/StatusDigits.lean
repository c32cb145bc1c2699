import Mathlib.Data.Nat.Digits.Defs
import ObjectStore.Proofs.CodeReading

/-!
# Statuses written in digits

A status may be a text. Where the text is made of decimal digits, of whatever scripts, it stands for
the number that they write in base ten, and the call is classified as with this number for its
status. Any other text is no status, and the call is classified as without one.
-/

namespace ObjectStore

set_option autoImplicit false

namespace Text

/-- A text of decimal digits, at least one and no more than are ever read, and the number that they
write in base ten, the first digit being the highest. -/
structure Writes (content : String) (number : Nat) : Prop where
  nonempty : content.toList ≠ []
  admissible : content.toList.length ≤ digitLimit
  digits : ∃ digits : List Nat, content.toList.map digitValue? = digits.map some ∧
    Nat.ofDigits 10 digits.reverse = number

/-- Reading on after a number shifts it by one place for each digit. -/
theorem digits_value_eq_of_digits (before : Nat) (characters : List Char) (digits : List Nat)
    (read : characters.map digitValue? = digits.map some) :
    digitsValue before characters =
      before * 10 ^ digits.length + Nat.ofDigits 10 digits.reverse := by
  induction characters generalizing before digits with
  | nil =>
      obtain rfl : digits = [] := by simpa using read.symm
      simp [digitsValue]
  | cons c rest ih =>
      cases digits with
      | nil => cases read
      | cons digit digits =>
          simp only [List.map_cons, List.cons.injEq] at read
          obtain ⟨first, remaining⟩ := read
          have onward :
              digitsValue before (c :: rest) = digitsValue (10 * before + digit) rest := by
            simp [digitsValue, first]
          rw [onward, ih _ digits remaining, List.reverse_cons, Nat.ofDigits_append,
            Nat.ofDigits_singleton, List.length_reverse, List.length_cons]
          ring

/-- A run of digits is one of which every character has a value. -/
theorem all_digits_iff (characters : List Char) :
    (∀ c ∈ characters, isDigit c = true) ↔
      ∃ digits : List Nat, characters.map digitValue? = digits.map some := by
  induction characters with
  | nil => exact iff_of_true (by simp) ⟨[], rfl⟩
  | cons c rest ih =>
      rw [List.forall_mem_cons, ih, isDigit, Option.isSome_iff_exists]
      constructor
      · rintro ⟨⟨digit, first⟩, digits, remaining⟩
        exact ⟨digit :: digits, by rw [List.map_cons, List.map_cons, first, remaining]⟩
      · rintro ⟨digits, read⟩
        cases digits with
        | nil => cases read
        | cons digit digits =>
            simp only [List.map_cons, List.cons.injEq] at read
            exact ⟨⟨digit, read.1⟩, digits, read.2⟩

theorem decimal_value_iff_writes (content : String) (number : Nat) :
    decimalValue? content = some number ↔ Writes content number := by
  constructor
  · intro read
    unfold decimalValue? at read
    split at read
    · rename_i fits
      rw [Bool.and_eq_true, is_decimal_iff, decide_eq_true_eq] at fits
      obtain ⟨⟨nonempty, decimal⟩, admissible⟩ := fits
      obtain ⟨digits, values⟩ := (all_digits_iff content.toList).mp decimal
      refine ⟨nonempty, admissible, digits, values, ?_⟩
      rw [← Option.some.inj read, digits_value_eq_of_digits 0 content.toList digits values]
      simp
    · cases read
  · rintro ⟨nonempty, admissible, digits, values, rfl⟩
    have decimal : isDecimal content = true :=
      (is_decimal_iff content).mpr ⟨nonempty, (all_digits_iff content.toList).mpr ⟨digits, values⟩⟩
    rw [decimal_value_of_short content decimal admissible,
      digits_value_eq_of_digits 0 content.toList digits values]
    simp

/-- A text that writes no number is empty, or has a character that is no digit, or is too long. -/
inductive NotWritten (content : String) : Prop where
  | empty (nothing : content.toList = [])
  | foreign (c : Char) (member : c ∈ content.toList) (noDigit : digitValue? c = none)
  | tooLong (long : digitLimit < content.toList.length)

theorem decimal_value_none_iff (content : String) :
    decimalValue? content = none ↔ NotWritten content := by
  constructor
  · intro unread
    by_cases nothing : content.toList = []
    · exact .empty nothing
    by_cases long : digitLimit < content.toList.length
    · exact .tooLong long
    have notAll : ¬∀ c ∈ content.toList, isDigit c = true := by
      intro all
      have decimal := (is_decimal_iff content).mpr ⟨nothing, all⟩
      rw [decimal_value_of_short content decimal (Nat.le_of_not_lt long)] at unread
      cases unread
    simp only [not_forall] at notAll
    obtain ⟨c, member, noDigit⟩ := notAll
    exact .foreign c member (by simpa [isDigit] using noDigit)
  · intro notWritten
    rw [Option.eq_none_iff_forall_not_mem]
    intro number read
    obtain ⟨nonempty, admissible, digits⟩ := (decimal_value_iff_writes content number).mp read
    cases notWritten with
    | empty nothing => exact nonempty nothing
    | foreign c member noDigit =>
        obtain ⟨values, read, _⟩ := digits
        have digit := (all_digits_iff content.toList).mpr ⟨values, read⟩ c member
        simp [isDigit, noDigit] at digit
    | tooLong long => exact Nat.not_lt.mpr admissible long

end Text

namespace Response

variable {left right : Response} (same : left.error = right.error)

include same

theorem body_of_same_error : left.body? = right.body? := by
  rw [body?, body?, same]

/-- The code stands in for the status in both or in neither. -/
theorem status_of_same_error (alike : left.metadataStatus? = right.metadataStatus?) :
    left.status? = right.status? := by
  rw [status?, status?, alike, codeStatus?, codeStatus?, errorEntry?, errorEntry?, same]

end Response

theorem classify_same_besides_status {left right : History} {id : FailureId}
    {leftResponse rightResponse : Response}
    (foundLeft : (left.failure id).response = some leftResponse)
    (foundRight : (right.failure id).response = some rightResponse)
    (told : (left.failure id).text = (right.failure id).text)
    (same : leftResponse.error = rightResponse.error)
    (alike : leftResponse.metadataStatus? = rightResponse.metadataStatus?)
    (operation : String) (path : Path) :
    left.classify operation path id = right.classify operation path id := by
  unfold History.classify
  rw [foundLeft, foundRight, told]
  simp only [Response.body_of_same_error same, Response.status_of_same_error same alike]

/-- A status in digits is as good as the number that the digits write, whatever else the metadata
hold and however many zeros lead. A text that writes no number is as good as no status. -/
theorem status_in_digits_is_its_number (left right : History) (id : FailureId)
    (leftResponse rightResponse : Response)
    (foundLeft : (left.failure id).response = some leftResponse)
    (foundRight : (right.failure id).response = some rightResponse)
    (told : (left.failure id).text = (right.failure id).text)
    (same : leftResponse.error = rightResponse.error) (content : String)
    (status : leftResponse.metadataEntry? "HTTPStatusCode" = some (.text content))
    (operation : String) (path : Path) :
    (∀ number : Nat, Text.Writes content number →
      rightResponse.metadataEntry? "HTTPStatusCode" = some (.integer number) →
      left.classify operation path id = right.classify operation path id ∧
        ∀ error, left.classify operation path id = .ok error →
          error.statusCode = some (number : Int)) ∧
    (Text.NotWritten content →
      rightResponse.metadataEntry? "HTTPStatusCode" = none →
      left.classify operation path id = right.classify operation path id) := by
  have readLeft : leftResponse.metadataStatus? = (Text.decimalValue? content).map Int.ofNat := by
    rw [Response.metadataStatus?, status]
    rfl
  constructor
  · intro number written numeric
    have value := (Text.decimal_value_iff_writes content number).mpr written
    rw [value] at readLeft
    constructor
    · apply classify_same_besides_status foundLeft foundRight told same
      rw [readLeft, Response.metadataStatus?, numeric]
      rfl
    · intro error made
      rw [(classified_kind_by_status foundLeft made).1]
      exact leftResponse.status_of_metadata number readLeft
  · intro unwritten absent
    apply classify_same_besides_status foundLeft foundRight told same
    rw [readLeft, (Text.decimal_value_none_iff content).mpr unwritten, Response.metadataStatus?,
      absent]
    rfl

def movedBucketWith (status : Option Value) : Response where
  error := movedBucket.error
  metadata := some
    ((status.map fun value => ("HTTPStatusCode", value)).toList ++ [("RetryAttempts", .integer 4)])

def movedBucketReport (status : Option Value) : History :=
  History.empty.record (.fresh (.ofResponse "ClientError" (movedBucketWith status) movedBucketText))

/-- A zero in Latin digits, a full-width three, an Arabic zero and a one make 301. A superscript is
no digit, so the status that ends in one is no status, and neither is one with a sign. -/
theorem moved_bucket_in_mixed_digits :
    Text.Writes "0３٠1" 301 ∧ Text.NotWritten "30¹" ∧ Text.NotWritten "+301" ∧
      (movedBucketReport (some (.text "0３٠1"))).classify "getObject" .absent 0 =
        (movedBucketReport (some (.integer 301))).classify "getObject" .absent 0 ∧
      (∃ error, (movedBucketReport (some (.text "0３٠1"))).classify "getObject" .absent 0 =
        .ok error ∧ error.kind = .redirect ∧ error.statusCode = some 301) ∧
      (movedBucketReport (some (.text "30¹"))).classify "getObject" .absent 0 =
        (movedBucketReport none).classify "getObject" .absent 0 ∧
      (movedBucketReport (some (.text "+301"))).classify "getObject" .absent 0 =
        (movedBucketReport none).classify "getObject" .absent 0 := by
  have written : Text.Writes "0３٠1" 301 :=
    ⟨by decide, by decide, [0, 3, 0, 1], by decide, by decide⟩
  have superscript : Text.NotWritten "30¹" := .foreign '¹' (by decide) (by decide)
  have signed : Text.NotWritten "+301" := .foreign '+' (by decide) (by decide)
  have reported := fun content other => status_in_digits_is_its_number
    (movedBucketReport (some (.text content))) (movedBucketReport other) 0 _ _ rfl rfl rfl rfl
    content rfl "getObject" .absent
  obtain ⟨alike, status⟩ := (reported "0３٠1" (some (.integer 301))).1 301 written rfl
  refine ⟨written, superscript, signed, alike, ⟨_, rfl, rfl, ?_⟩,
    (reported "30¹" none).2 superscript rfl, (reported "+301" none).2 signed rfl⟩
  exact status _ rfl

end ObjectStore
