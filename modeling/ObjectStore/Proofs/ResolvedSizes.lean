import Mathlib.Algebra.Order.Ring.Int
import ObjectStore.Proofs.MissingTexts
import ObjectStore.Upload.Sizes

/-!
# Resolved upload sizes

Raising a size to the minimum is a maximum, capping it is a minimum, and each gives its warning
exactly when it changes the size. All that can stand in the way is a warning that cannot be shown.
The sizes for uploads are put together from these, each from a setting of its own.
-/

namespace ObjectStore

set_option autoImplicit false

def Text.Writable (number : Int) : Prop :=
  (Nat.toDigits 10 number.natAbs).length ≤ digitLimit

theorem integer_text_returns {number : Int} (writable : Text.Writable number) :
    ∃ text, integerText number = .ok text :=
  (integer_text_fails number).returns (Nat.not_lt.mpr writable)

theorem multipart_minimum_writable : Text.Writable multipartMinimum := by
  unfold Text.Writable
  decide

def SizeWarning.when (warning : SizeWarning) (condition : Prop) [Decidable condition] :
    List SizeWarning :=
  if condition then [warning] else []

namespace SizeWarning

section

variable (warning : SizeWarning) (condition : Prop) [Decidable condition]

theorem when_of_not (failed : ¬condition) : warning.when condition = [] :=
  if_neg failed

theorem when_congr {other : Prop} [Decidable other] (same : condition ↔ other) :
    warning.when condition = warning.when other := by
  rw [when, when]
  exact if_congr same rfl rfl

theorem mem_when (given : SizeWarning) : given ∈ warning.when condition ↔
    condition ∧ given = warning := by
  rw [when]
  split <;> simp_all

theorem length_when : (warning.when condition).length = if condition then 1 else 0 := by
  rw [when]
  split <;> rfl

end

theorem below_minimum_shown (name : String) {minimum configured : Int}
    (least : Text.Writable minimum) (given : Text.Writable configured) :
    ∃ text, (belowMinimum name minimum configured).text = .ok text := by
  obtain ⟨leastText, leastShown⟩ := integer_text_returns least
  obtain ⟨givenText, givenShown⟩ := integer_text_returns given
  simp only [SizeWarning.text, leastShown, givenShown]
  exact ⟨_, rfl⟩

end SizeWarning

namespace Warned

variable {α β : Type}

theorem warn_shown {warning : SizeWarning} (shown : ∃ text, warning.text = .ok text) :
    warn warning = ⟨[warning], .ok ()⟩ := by
  obtain ⟨text, shown⟩ := shown
  rw [warn, shown]

theorem and_then_outcome (first : Warned α) (next : α → Warned β) (result : β) :
    (first.andThen next).outcome = .ok result ↔
      ∃ value, first.outcome = .ok value ∧ (next value).outcome = .ok result := by
  unfold andThen
  cases first.outcome <;> simp

end Warned

/-- Only a size that is raised has to be written. -/
theorem raise_to_minimum_eq (name : String) {minimum configured : Int}
    (least : Text.Writable minimum) (given : configured < minimum → Text.Writable configured) :
    raiseToMinimum name minimum configured =
      ⟨(SizeWarning.belowMinimum name minimum configured).when (configured < minimum),
        .ok (max configured minimum)⟩ := by
  unfold raiseToMinimum SizeWarning.when
  by_cases low : configured < minimum
  · rw [if_pos low, if_pos low, max_eq_right low.le, Warned.bind_eq_and_then,
      Warned.warn_shown (SizeWarning.below_minimum_shown name least (given low))]
    rfl
  · rw [if_neg low, if_neg low, max_eq_left (not_lt.mp low)]
    rfl

theorem cap_to_offset_eq (name : String) (size : Int) :
    capToOffset name size =
      ⟨(SizeWarning.capped name).when (offsetMaximum < size), .ok (min size offsetMaximum)⟩ := by
  unfold capToOffset SizeWarning.when
  by_cases high : offsetMaximum < size
  · rw [if_pos high, if_pos high, min_eq_right high.le, Warned.bind_eq_and_then,
      Warned.warn_shown ⟨_, rfl⟩]
    rfl
  · rw [if_neg high, if_neg high, min_eq_left (not_lt.mp high)]
    rfl

namespace Settings

theorem configured_size_eq {settings : Settings} {field : SettingField} {configured : Option Int}
    (held : settings.get field = sizeValue configured) (fallback : Int) :
    settings.configuredSize field fallback = .ok (configured.getD fallback) := by
  rw [configuredSize, held]
  cases configured <;> rfl

theorem multipart_property_eq (settings : Settings) (field : SettingField)
    {configured : Option Int} {fallback : Int} (held : settings.get field = sizeValue configured)
    (given : configured.getD fallback < multipartMinimum →
      Text.Writable (configured.getD fallback)) :
    settings.multipartProperty field fallback =
      ⟨(SizeWarning.belowMinimum field.name multipartMinimum (configured.getD fallback)).when
          (configured.getD fallback < multipartMinimum),
        .ok (max (configured.getD fallback) multipartMinimum)⟩ := by
  rw [multipartProperty, configured_size_eq held fallback,
    ← raise_to_minimum_eq field.name multipart_minimum_writable given]
  rfl

theorem named_property_eq (settings : Settings) (field : SettingField) (fallback : Int) :
    settings.namedProperty field.name fallback = settings.multipartProperty field fallback := by
  rw [namedProperty, SettingField.find, SettingField.of_name_name]

theorem buffer_size_eq (settings : Settings) {size : Int}
    (held : settings.fastUploadBufferSize = .integer size) :
    settings.bufferSize =
      ⟨(SizeWarning.capped SettingField.fastUploadBufferSize.name).when (offsetMaximum < size),
        .ok (min size offsetMaximum)⟩ := by
  rw [bufferSize, held, ← cap_to_offset_eq SettingField.fastUploadBufferSize.name size]
  rfl

/-- The sizes with all warnings, where those that are too small can be written. The part size is
capped after the threshold was raised. -/
theorem upload_sizes_eq {multipartSize multipartThreshold : Option Int} {part threshold : Int}
    (buffer : Int) (partSize : multipartSize.getD defaultMultipartSize = part)
    (thresholdSize : multipartThreshold.getD defaultMultipartThreshold = threshold)
    (partGiven : part < multipartMinimum → Text.Writable part)
    (thresholdGiven : threshold < multipartMinimum → Text.Writable threshold) :
    (ofSizes multipartSize multipartThreshold buffer).uploadSizes =
      ⟨(SizeWarning.belowMinimum SettingField.multipartSize.name multipartMinimum part).when
          (part < multipartMinimum) ++
        ((SizeWarning.belowMinimum SettingField.multipartThreshold.name multipartMinimum
            threshold).when (threshold < multipartMinimum) ++
          ((SizeWarning.capped SettingField.multipartSize.name).when
              (offsetMaximum < max part multipartMinimum) ++
            (SizeWarning.capped SettingField.fastUploadBufferSize.name).when
              (offsetMaximum < buffer))),
        .ok {
          partSize := min (max part multipartMinimum) offsetMaximum
          threshold := max threshold multipartMinimum
          bufferSize := min buffer offsetMaximum }⟩ := by
  subst partSize thresholdSize
  have part := multipart_property_eq (ofSizes multipartSize multipartThreshold buffer)
    .multipartSize rfl partGiven
  have threshold := multipart_property_eq (ofSizes multipartSize multipartThreshold buffer)
    .multipartThreshold rfl thresholdGiven
  have size := buffer_size_eq (ofSizes multipartSize multipartThreshold buffer) rfl
  simp only [uploadSizes, Warned.bind_eq_and_then, Warned.pure_eq_value, Warned.andThen,
    Warned.value, part, threshold, size, cap_to_offset_eq, List.append_nil]

theorem upload_sizes_outcome (settings : Settings) (sizes : UploadSizes) :
    settings.uploadSizes.outcome = .ok sizes ↔
      ∃ part, (settings.multipartProperty .multipartSize defaultMultipartSize).outcome = .ok part ∧
        (settings.multipartProperty .multipartThreshold defaultMultipartThreshold).outcome =
          .ok sizes.threshold ∧
        (capToOffset SettingField.multipartSize.name part).outcome = .ok sizes.partSize ∧
        settings.bufferSize.outcome = .ok sizes.bufferSize := by
  simp only [uploadSizes, Warned.bind_eq_and_then, Warned.and_then_outcome, Warned.pure_eq_value,
    Warned.value, Except.ok.injEq]
  constructor
  · rintro ⟨part, raised, threshold, thresholdRaised, partSize, capped, bufferSize, buffered, rfl⟩
    exact ⟨part, raised, thresholdRaised, capped, buffered⟩
  · rintro ⟨part, raised, thresholdRaised, capped, buffered⟩
    exact ⟨part, raised, _, thresholdRaised, _, capped, _, buffered, rfl⟩

theorem multipart_property_congr {left right : Settings} (field : SettingField)
    (same : left.get field = right.get field) (fallback : Int) :
    left.multipartProperty field fallback = right.multipartProperty field fallback := by
  rw [multipartProperty, multipartProperty, configuredSize, configuredSize, same]

/-- Sizes that were resolved, of whatever values, agree wherever their settings agree. -/
structure OwnSettings (left right : Settings) (leftSizes rightSizes : UploadSizes) : Prop where
  partSize : left.multipartSize = right.multipartSize → leftSizes.partSize = rightSizes.partSize
  threshold : left.multipartThreshold = right.multipartThreshold →
    leftSizes.threshold = rightSizes.threshold
  bufferSize : left.fastUploadBufferSize = right.fastUploadBufferSize →
    leftSizes.bufferSize = rightSizes.bufferSize

theorem own_settings {left right : Settings} {leftSizes rightSizes : UploadSizes}
    (resolvedLeft : left.uploadSizes.outcome = .ok leftSizes)
    (resolvedRight : right.uploadSizes.outcome = .ok rightSizes) :
    OwnSettings left right leftSizes rightSizes := by
  obtain ⟨leftPart, leftRaised, leftThreshold, leftCapped, leftBuffer⟩ :=
    (left.upload_sizes_outcome leftSizes).mp resolvedLeft
  obtain ⟨rightPart, rightRaised, rightThreshold, rightCapped, rightBuffer⟩ :=
    (right.upload_sizes_outcome rightSizes).mp resolvedRight
  constructor
  case partSize =>
    intro same
    rw [multipart_property_congr .multipartSize same, rightRaised] at leftRaised
    cases leftRaised
    rw [rightCapped] at leftCapped
    exact (Except.ok.inj leftCapped).symm
  case threshold =>
    intro same
    rw [multipart_property_congr .multipartThreshold same, rightThreshold] at leftThreshold
    exact (Except.ok.inj leftThreshold).symm
  case bufferSize =>
    intro same
    rw [bufferSize, same] at leftBuffer
    rw [bufferSize, leftBuffer] at rightBuffer
    exact Except.ok.inj rightBuffer

theorem writable_given {configured : Option Int} {fallback : Int}
    (given : ∀ size, configured = some size → size < multipartMinimum → Text.Writable size)
    (usable : multipartMinimum ≤ fallback) (low : configured.getD fallback < multipartMinimum) :
    Text.Writable (configured.getD fallback) := by
  cases configured with
  | none => exact absurd low (not_lt.mpr usable)
  | some size => exact given size rfl low

/-- Whatever integers are configured or left out, as long as those below the minimum are not too
long for the warning, the sizes are resolved and lie within bounds: the part size between five
mebibytes and the largest offset, the threshold at five mebibytes or more, the buffer at the largest
offset or less. A size of zero counts as configured. No size depends on the setting of another one.
A single multipart size is resolved in the same way under any default, which is itself raised where
it is too small. -/
theorem upload_sizes_lie_within_bounds :
    (∀ (multipartSize multipartThreshold : Option Int) (buffer : Int),
      (∀ size, multipartSize = some size → size < 5 * 1024 * 1024 → Text.Writable size) →
      (∀ size, multipartThreshold = some size → size < 5 * 1024 * 1024 → Text.Writable size) →
      ∃ sizes, (ofSizes multipartSize multipartThreshold buffer).uploadSizes.outcome = .ok sizes ∧
        sizes.partSize =
          min (max (multipartSize.getD (100 * 1024 * 1024)) (5 * 1024 * 1024)) (2 ^ 31 - 1) ∧
        sizes.threshold = max (multipartThreshold.getD (2 ^ 31 - 1)) (5 * 1024 * 1024) ∧
        sizes.bufferSize = min buffer (2 ^ 31 - 1) ∧
        5 * 1024 * 1024 ≤ sizes.partSize ∧ sizes.partSize ≤ 2 ^ 31 - 1 ∧
        5 * 1024 * 1024 ≤ sizes.threshold ∧
        (multipartSize = some 0 → sizes.partSize = 5 * 1024 * 1024) ∧
        (multipartThreshold = some 0 → sizes.threshold = 5 * 1024 * 1024) ∧
        (buffer = 0 → sizes.bufferSize = 0)) ∧
    (∀ (left right : Settings) (leftSizes rightSizes : UploadSizes),
      left.uploadSizes.outcome = .ok leftSizes → right.uploadSizes.outcome = .ok rightSizes →
      OwnSettings left right leftSizes rightSizes) ∧
    ∀ (settings : Settings) (field : SettingField) (configured : Option Int) (fallback : Int),
      settings.get field = sizeValue configured →
      (configured.getD fallback < 5 * 1024 * 1024 → Text.Writable (configured.getD fallback)) →
      ∃ size, (settings.namedProperty field.name fallback).outcome = .ok size ∧
        size = max (configured.getD fallback) (5 * 1024 * 1024) ∧ 5 * 1024 * 1024 ≤ size := by
  refine ⟨?_, fun left right leftSizes rightSizes => own_settings, ?_⟩
  · intro multipartSize multipartThreshold buffer partGiven thresholdGiven
    rw [upload_sizes_eq buffer rfl rfl (writable_given partGiven (by decide))
      (writable_given thresholdGiven (by decide))]
    refine ⟨_, rfl, rfl, rfl, rfl, ?_, min_le_right _ _, le_max_right _ _, ?_, ?_, ?_⟩
    · exact le_min (le_max_right _ _) (by decide)
    · rintro rfl
      rfl
    · rintro rfl
      rfl
    · rintro rfl
      rfl
  · intro settings field configured fallback held given
    rw [named_property_eq, multipart_property_eq settings field held given]
    exact ⟨_, rfl, rfl, le_max_right _ _⟩

def assignedSettings : Settings where
  multipartSize := .integer 8_000_000
  multipartThreshold := .text " 7_000_000"
  fastUploadBufferSize := .boolean true

theorem small_sizes_writable : Text.Writable 0 ∧ Text.Writable (-1) := by
  unfold Text.Writable
  decide

/-- A part size of zero is raised and an unset threshold is not. The part size of eight million
stays what it is beside assigned values. A default below the minimum is raised as well. -/
theorem zero_and_unset_sizes_resolved :
    (ofSizes (some 0) none (2 ^ 40)).uploadSizes.outcome = .ok {
        partSize := 5 * 1024 * 1024
        threshold := 2 ^ 31 - 1
        bufferSize := 2 ^ 31 - 1 } ∧
      (∃ sizes assigned,
        (ofSizes (some 8_000_000) none (-1)).uploadSizes.outcome = .ok sizes ∧
        assignedSettings.uploadSizes.outcome = .ok assigned ∧
        sizes.partSize = assigned.partSize ∧ sizes.threshold ≠ assigned.threshold) ∧
      ((assignedSettings.set .multipartSize .null).namedProperty "multipart_size" (-1)).outcome =
        .ok (5 * 1024 * 1024) := by
  obtain ⟨resolved, own, property⟩ := upload_sizes_lie_within_bounds
  obtain ⟨zero, negative⟩ := small_sizes_writable
  refine ⟨?_, ?_, ?_⟩
  · obtain ⟨sizes, made, part, threshold, buffer, _⟩ := resolved (some 0) none (2 ^ 40)
      (by
        rintro size ⟨⟩ _
        exact zero)
      (by simp)
    rw [made, Except.ok.injEq]
    obtain ⟨partSize, thresholdSize, bufferSize⟩ := sizes
    rw [UploadSizes.mk.injEq]
    exact ⟨part, threshold, buffer⟩
  · obtain ⟨sizes, made, _, threshold, _⟩ := resolved (some 8_000_000) none (-1)
      (by
        rintro size ⟨⟩ low
        exact absurd low (by decide))
      (by simp)
    have assigned : assignedSettings.uploadSizes.outcome =
        .ok { partSize := 8_000_000, threshold := 7_000_000, bufferSize := 1 } := rfl
    refine ⟨sizes, _, made, assigned, (own _ _ sizes _ made assigned).partSize rfl, ?_⟩
    rw [threshold]
    decide
  · obtain ⟨size, made, raised, _⟩ := property (assignedSettings.set .multipartSize .null)
      .multipartSize none (-1) rfl fun _ => negative
    rw [raised] at made
    exact made

end Settings

end ObjectStore
