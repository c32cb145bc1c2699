import ObjectStore.Response.Body
import ObjectStore.Response.Status

/-!
# What a response says

The status and the body of a response, each said without the functions that compute it. A status
is read off a value by one relation, in the metadata first and in the code after that. A body is an
error object with a code that tells more than digits. The functions compute exactly these.
-/

namespace ObjectStore

set_option autoImplicit false

theorem except_bind_eq_ok {fault first second : Type} (step : Except fault first)
    (next : first → Except fault second) (result : second) :
    (step >>= next) = .ok result ↔ ∃ value, step = .ok value ∧ next value = .ok result := by
  cases step <;> simp [bind, Except.bind]

theorem except_map_error_eq_ok {fault other result : Type} (step : Except fault result)
    (outer : fault → other) (value : result) :
    step.mapError outer = .ok value ↔ step = .ok value := by
  cases step with
  | error first =>
      change Except.error (outer first) = Except.ok value ↔ _
      simp
  | ok given =>
      change Except.ok given = Except.ok value ↔ _
      simp

/-- Integers stand for themselves. A text stands for a number when it has digits only, at least
one of them and not too many; the digits of every script count. -/
inductive ReadsAs : Value → Int → Prop where
  | integer (number : Int) : ReadsAs (.integer number) number
  | decimal (content : String) (nonempty : content.toList ≠ [])
      (digits : ∀ c ∈ content.toList, Text.isDigit c = true)
      (admissible : content.toList.length ≤ Text.digitLimit) :
      ReadsAs (.text content) (Text.digitsValue 0 content.toList)

theorem is_decimal_iff (content : String) :
    Text.isDecimal content = true ↔
      content.toList ≠ [] ∧ ∀ c ∈ content.toList, Text.isDigit c = true := by
  simp only [Text.isDecimal, Bool.and_eq_true, Bool.not_eq_true', List.all_eq_true,
    List.isEmpty_eq_false_iff, ne_eq]

theorem status_iff_reads_as (value : Value) (number : Int) :
    value.status? = some number ↔ ReadsAs value number := by
  constructor
  · intro read
    cases value with
    | integer given =>
        have same : given = number := Option.some.inj read
        exact same ▸ .integer given
    | text content =>
        obtain ⟨written, decimal, rfl⟩ := Option.map_eq_some_iff.mp read
        rw [Text.decimalValue?] at decimal
        split at decimal
        · rename_i fits
          rw [Bool.and_eq_true, is_decimal_iff, decide_eq_true_eq] at fits
          rw [← Option.some.inj decimal]
          exact .decimal content fits.1.1 fits.1.2 fits.2
        · cases decimal
    | null => cases read
    | boolean => cases read
    | float => cases read
    | bytes => cases read
    | list => cases read
    | record => cases read
  · intro reads
    cases reads with
    | integer => rfl
    | decimal content nonempty digits admissible =>
        have decimal := (is_decimal_iff content).mpr ⟨nonempty, digits⟩
        rw [Value.status?, Text.decimal_value_of_short content decimal admissible]
        rfl

namespace Response

/-- The status that a response reports: what its metadata can be read as, and only where they
cannot be read, what its error code can be read as. -/
def Reports (response : Response) (status : Int) : Prop :=
  (∃ value, response.metadataEntry? "HTTPStatusCode" = some value ∧ ReadsAs value status) ∨
    (∀ value, response.metadataEntry? "HTTPStatusCode" = some value →
        ∀ number, ¬ReadsAs value number) ∧
      ∃ value, response.errorEntry? "Code" = some value ∧ ReadsAs value status

/-- A structured body: an error object that is not empty, with a truthy code whose text is not made
of digits alone. -/
structure HasBody (response : Response) (entries : Record) : Prop where
  error : response.error = some entries
  nonempty : entries ≠ []
  code : ∃ value text, entries.value? "Code" = some value ∧ value.truthy = true ∧
    value.shown = .ok text ∧ Text.isDecimal text = false

def Showable (response : Response) : Prop :=
  ∀ entries, response.error = some entries → ∀ key value, (key, value) ∈ entries →
    ∃ text, value.shown = .ok text

theorem metadata_status_iff (response : Response) (status : Int) :
    response.metadataStatus? = some status ↔
      ∃ value, response.metadataEntry? "HTTPStatusCode" = some value ∧ ReadsAs value status := by
  rw [metadataStatus?, Option.bind_eq_some_iff]
  simp only [status_iff_reads_as]

theorem code_status_iff (response : Response) (status : Int) :
    response.codeStatus? = some status ↔
      ∃ value, response.errorEntry? "Code" = some value ∧ ReadsAs value status := by
  rw [codeStatus?, Option.bind_eq_some_iff]
  simp only [status_iff_reads_as]

theorem status_iff_reports (response : Response) (status : Int) :
    response.status? = some status ↔ response.Reports status := by
  cases metadata : response.metadataStatus? with
  | some number =>
      have read := (response.metadata_status_iff number).mp metadata
      rw [response.status_of_metadata number metadata, ← metadata,
        response.metadata_status_iff status]
      constructor
      · exact Or.inl
      · rintro (reported | ⟨unreadable, _⟩)
        · exact reported
        · obtain ⟨value, found, reads⟩ := read
          exact absurd reads (unreadable value found number)
  | none =>
      have unreadable : ∀ value, response.metadataEntry? "HTTPStatusCode" = some value →
          ∀ number, ¬ReadsAs value number := by
        intro value found number reads
        have present := (response.metadata_status_iff number).mpr ⟨value, found, reads⟩
        rw [metadata] at present
        cases present
      rw [response.status_of_code metadata, response.code_status_iff status]
      constructor
      · exact fun reported => Or.inr ⟨unreadable, reported⟩
      · rintro (⟨value, found, reads⟩ | ⟨_, reported⟩)
        · exact absurd reads (unreadable value found status)
        · exact reported

theorem mem_of_value {entries : Record} {key : String} {value : Value}
    (found : entries.value? key = some value) : (key, value) ∈ entries := by
  obtain ⟨before, after, split, _⟩ := List.lookup_eq_some_iff.mp found
  rw [split]
  simp

theorem value_of_mem {entries : Record} (distinct : (entries.map Prod.fst).Nodup) {key : String}
    {value : Value} (member : (key, value) ∈ entries) : entries.value? key = some value := by
  induction entries with
  | nil => cases member
  | cons entry rest ih =>
      obtain ⟨first, content⟩ := entry
      obtain ⟨absent, distinctRest⟩ := List.nodup_cons.mp distinct
      unfold Record.value? at ih ⊢
      rw [List.lookup_cons]
      rcases List.mem_cons.mp member with same | later
      · cases same
        simp
      · have apart : (key == first) = false := by
          apply beq_eq_false_iff_ne.mpr
          rintro rfl
          exact absent (List.mem_map.mpr ⟨_, later, rfl⟩)
        simpa only [apart] using ih distinctRest later

theorem body_iff_has_body (response : Response) (entries : Record) :
    response.body? = .ok (some entries) ↔ response.HasBody entries := by
  constructor
  · intro read
    unfold body? at read
    split at read
    · cases read
    · rename_i present error
      split at read
      · rename_i truthy
        obtain ⟨text, shown, chosen⟩ := (except_bind_eq_ok _ _ _).mp read
        cases found : present.value? "Code" with
        | none => simp [Record.code, found, Value.truthy] at truthy
        | some value =>
            simp only [Record.code, found, Option.getD_some] at truthy shown
            cases decimal : Text.isDecimal text with
            | true => simp [decimal, pure, Except.pure] at chosen
            | false =>
                have same : present = entries := by
                  simpa [decimal, pure, Except.pure] using chosen
                subst same
                refine ⟨error, ?_, value, text, found, truthy, shown, decimal⟩
                rintro rfl
                cases found
      · cases read
  · rintro ⟨error, _, value, text, found, truthy, shown, decimal⟩
    have code : Record.code entries = value := by simp [Record.code, found]
    simp [body?, error, code, truthy, shown, decimal, bind, Except.bind, pure, Except.pure]

theorem body_returns (response : Response) (showable : response.Showable) :
    ∃ body, response.body? = .ok body ∧
      ∀ entries, body = some entries ↔ response.HasBody entries := by
  have returned : ∃ body, response.body? = .ok body := by
    unfold body?
    split
    · exact ⟨none, rfl⟩
    · rename_i present error
      cases found : present.value? "Code" with
      | none => exact ⟨none, by simp [Record.code, found, Value.truthy]⟩
      | some value =>
          obtain ⟨text, shown⟩ := showable present error "Code" value (mem_of_value found)
          cases truthy : value.truthy with
          | false => exact ⟨none, by simp [Record.code, found, truthy]⟩
          | true =>
              refine ⟨if Text.isDecimal text then none else some present, ?_⟩
              simp [Record.code, found, truthy, shown, bind, Except.bind, pure, Except.pure]
  obtain ⟨body, read⟩ := returned
  refine ⟨body, read, ?_⟩
  intro entries
  rw [← response.body_iff_has_body entries, read]
  simp

end Response

theorem details_of_leading (key : String) (value : Value) (rest : Record)
    (leading : isLeadingKey key = true) : detailsOf ((key, value) :: rest) = detailsOf rest := by
  rw [detailsOf, if_pos leading]

theorem details_of_entry (key : String) (value : Value) (rest : Record) (details : Details)
    (kept : isLeadingKey key = false) :
    detailsOf ((key, value) :: rest) = .ok details ↔
      ∃ text others, value.shown = .ok text ∧ detailsOf rest = .ok others ∧
        (key, text) :: others = details := by
  simp only [detailsOf, kept, Bool.false_eq_true, if_false, except_bind_eq_ok, pure, Except.pure,
    Except.ok.injEq, exists_and_left]

/-- Details can be made exactly when every entry that becomes one has a text. -/
theorem details_return_iff (entries : Record) :
    (∃ details, detailsOf entries = .ok details) ↔
      ∀ key value, (key, value) ∈ entries → isLeadingKey key = false →
        ∃ text, value.shown = .ok text := by
  induction entries with
  | nil => simp [detailsOf]
  | cons entry rest ih =>
      obtain ⟨key, value⟩ := entry
      cases leading : isLeadingKey key with
      | true =>
          rw [details_of_leading key value rest leading, ih]
          constructor
          · intro showable other content member kept
            rcases List.mem_cons.mp member with same | later
            · cases same
              rw [leading] at kept
              cases kept
            · exact showable other content later kept
          · intro showable other content member
            exact showable other content (List.mem_cons_of_mem _ member)
      | false =>
          simp only [details_of_entry key value rest _ leading]
          constructor
          · rintro ⟨_, text, others, shown, made, _⟩ other content member kept
            rcases List.mem_cons.mp member with same | later
            · cases same
              exact ⟨text, shown⟩
            · exact ih.mp ⟨others, made⟩ other content later kept
          · intro showable
            obtain ⟨text, shown⟩ := showable key value List.mem_cons_self leading
            obtain ⟨others, made⟩ := ih.mpr fun other content member =>
              showable other content (List.mem_cons_of_mem _ member)
            exact ⟨_, text, others, shown, made, rfl⟩

theorem details_return (entries : Record)
    (showable : ∀ key value, (key, value) ∈ entries → ∃ text, value.shown = .ok text) :
    ∃ details, detailsOf entries = .ok details := by
  apply (details_return_iff entries).mpr
  intro key value member _
  exact showable key value member

/-- Every other entry of the body becomes a detail, in its place. -/
theorem details_keys_in_order {entries : Record} {details : Details}
    (made : detailsOf entries = .ok details) :
    details.map Prod.fst = (entries.map Prod.fst).filter fun key => !isLeadingKey key := by
  induction entries generalizing details with
  | nil =>
      cases made
      rfl
  | cons entry rest ih =>
      obtain ⟨key, value⟩ := entry
      cases leading : isLeadingKey key with
      | true =>
          rw [details_of_leading key value rest leading] at made
          rw [ih made, List.map_cons, List.filter_cons_of_neg (by simp [leading])]
      | false =>
          obtain ⟨text, others, _, remaining, rfl⟩ :=
            (details_of_entry key value rest details leading).mp made
          rw [List.map_cons, List.map_cons, ih remaining,
            List.filter_cons_of_pos (by simp [leading])]

/-- A key looked up in the details gives the text of what the body has under it, unless it is a
leading key. -/
theorem details_lookup_iff (entries : Record) (details : Details)
    (made : detailsOf entries = .ok details) (key text : String) :
    List.lookup key details = some text ↔
      isLeadingKey key = false ∧ ∃ value, entries.value? key = some value ∧
        value.shown = .ok text := by
  induction entries generalizing details with
  | nil =>
      cases made
      simp [Record.value?]
  | cons entry rest ih =>
      obtain ⟨first, value⟩ := entry
      unfold Record.value? at ih ⊢
      cases leading : isLeadingKey first with
      | true =>
          rw [details_of_leading first value rest leading] at made
          rw [ih details made, List.lookup_cons]
          by_cases same : key = first
          · subst same
            simp [leading]
          · have apart : (key == first) = false := beq_eq_false_iff_ne.mpr same
            simp only [apart]
      | false =>
          obtain ⟨shown, others, written, remaining, rfl⟩ :=
            (details_of_entry first value rest details leading).mp made
          rw [List.lookup_cons, List.lookup_cons]
          by_cases same : key = first
          · subst same
            simp [leading, written]
          · have apart : (key == first) = false := beq_eq_false_iff_ne.mpr same
            simpa only [apart] using ih others remaining

end ObjectStore
