import Mathlib.Data.List.Basic
import ObjectStore.Proofs.CodeReading
import ObjectStore.Proofs.SettledSizes

/-!
# Warnings about upload sizes

A size below the minimum is warned about where it is raised, a size above the largest offset where
it is capped, and no size is both. So a size differs from what it is made from exactly when one
warning names its field, and there are never more warnings than fields.
-/

namespace ObjectStore

set_option autoImplicit false

theorem integer_text_of_writable {number : Int} (writable : Text.Writable number) :
    integerText number = .ok (toString number) := by
  obtain ⟨text, made⟩ := integer_text_returns writable
  rw [made, integer_text_eq made]

namespace SizeWarning

def fieldName : SizeWarning → String
  | belowMinimum name _ _ => name
  | capped name => name

def sentence : SizeWarning → String
  | belowMinimum name minimum configured =>
      s!"{name} must be at least {minimum} bytes; configured value is {configured}"
  | capped name =>
      s!"objstore: {name} capped to ~2.14GB " ++
        "(maximum allowed size with current output mechanism)"

def logRecord (warning : SizeWarning) : LogRecord where
  level := .warning
  source := .upload
  text := warning.sentence

theorem below_minimum_record (name : String) {configured : Int}
    (given : Text.Writable configured) :
    (belowMinimum name multipartMinimum configured).record? =
      some (belowMinimum name multipartMinimum configured).logRecord := by
  have least := integer_text_of_writable multipart_minimum_writable
  rw [record?, text, least, integer_text_of_writable given]
  rfl

theorem capped_record (name : String) : (capped name).record? = some (capped name).logRecord := rfl

theorem count_when (warning : SizeWarning) (condition : Prop) [Decidable condition]
    (name : String) : ((warning.when condition).map fieldName).count name =
      if condition ∧ warning.fieldName = name then 1 else 0 := by
  rw [when]
  by_cases held : condition
  · simp [held, List.count_singleton]
  · simp [held]

end SizeWarning

namespace UploadSizes

def get (sizes : UploadSizes) : SettingField → Int
  | .multipartSize => sizes.partSize
  | .multipartThreshold => sizes.threshold
  | .fastUploadBufferSize => sizes.bufferSize

def adjusted (sizes : UploadSizes) : UploadSizes where
  partSize := min (max sizes.partSize multipartMinimum) offsetMaximum
  threshold := max sizes.threshold multipartMinimum
  bufferSize := min sizes.bufferSize offsetMaximum

/-- The warnings that go with it: first for what is too small, then for what is too large. -/
def warnings (sizes : UploadSizes) : List SizeWarning :=
  (SizeWarning.belowMinimum "multipart_size" multipartMinimum sizes.partSize).when
      (sizes.partSize < multipartMinimum) ++
    (SizeWarning.belowMinimum "multipart_threshold" multipartMinimum sizes.threshold).when
      (sizes.threshold < multipartMinimum) ++
    (SizeWarning.capped "multipart_size").when (offsetMaximum < sizes.partSize) ++
    (SizeWarning.capped "fast_upload_buffer_size").when (offsetMaximum < sizes.bufferSize)

theorem count_warnings (sizes : UploadSizes) (name : String) :
    (sizes.warnings.map SizeWarning.fieldName).count name =
      (if sizes.partSize < multipartMinimum ∧ "multipart_size" = name then 1 else 0) +
        (if sizes.threshold < multipartMinimum ∧ "multipart_threshold" = name then 1 else 0) +
        (if offsetMaximum < sizes.partSize ∧ "multipart_size" = name then 1 else 0) +
        (if offsetMaximum < sizes.bufferSize ∧ "fast_upload_buffer_size" = name then 1 else 0) := by
  simp only [warnings, List.map_append, List.count_append, SizeWarning.count_when,
    SizeWarning.fieldName]
  rfl

theorem not_raised_and_capped (sizes : UploadSizes) :
    ¬(sizes.partSize < multipartMinimum ∧ offsetMaximum < sizes.partSize) := by
  have ordered := multipart_minimum_le_offset_maximum
  omega

theorem length_warnings (sizes : UploadSizes) : sizes.warnings.length ≤ 3 := by
  have apart := sizes.not_raised_and_capped
  simp only [warnings, List.length_append, SizeWarning.length_when]
  split_ifs <;> omega

theorem warnings_name_once (sizes : UploadSizes) :
    (sizes.warnings.map SizeWarning.fieldName).Nodup := by
  apply List.nodup_iff_count.mpr
  intro name
  have apart := sizes.not_raised_and_capped
  rw [count_warnings]
  -- Two warnings can name the part size, but not both at once; any other field has one only.
  by_cases part : "multipart_size" = name
  · subst part
    simp only [and_true, String.reduceEq, and_false, if_false, Nat.add_zero]
    split_ifs <;> omega
  · by_cases threshold : "multipart_threshold" = name
    · subst threshold
      simp only [String.reduceEq, and_true, and_false, if_false, Nat.add_zero, Nat.zero_add]
      split_ifs <;> omega
    · simp only [part, threshold, and_false, if_false, Nat.zero_add]
      split_ifs <;> omega

theorem adjusted_iff_warned (sizes : UploadSizes) (field : SettingField) :
    sizes.adjusted.get field ≠ sizes.get field ↔
      (sizes.warnings.map SizeWarning.fieldName).count field.name = 1 := by
  have ordered := multipart_minimum_le_offset_maximum
  rw [count_warnings]
  cases field <;>
    simp only [SettingField.name, get, adjusted, String.reduceEq, and_true, and_false, if_false] <;>
    split_ifs <;> omega

/-- Only sizes below the minimum are written. -/
theorem log_of_warnings (sizes : UploadSizes)
    (partGiven : sizes.partSize < multipartMinimum → Text.Writable sizes.partSize)
    (thresholdGiven : sizes.threshold < multipartMinimum → Text.Writable sizes.threshold) :
    sizes.warnings.filterMap SizeWarning.record? =
      sizes.warnings.map SizeWarning.logRecord := by
  apply List.filterMap_eq_map_iff_forall_eq_some.mpr
  intro warning member
  simp only [warnings, List.mem_append, SizeWarning.mem_when] at member
  rcases member with ((⟨low, rfl⟩ | ⟨low, rfl⟩) | ⟨_, rfl⟩) | ⟨_, rfl⟩
  · exact SizeWarning.below_minimum_record _ (partGiven low)
  · exact SizeWarning.below_minimum_record _ (thresholdGiven low)
  · exact SizeWarning.capped_record _
  · exact SizeWarning.capped_record _

end UploadSizes

namespace Settings

theorem upload_sizes_eq_adjusted {multipartSize multipartThreshold : Option Int}
    (sizes : UploadSizes) (partSize : multipartSize.getD defaultMultipartSize = sizes.partSize)
    (threshold : multipartThreshold.getD defaultMultipartThreshold = sizes.threshold)
    (partGiven : sizes.partSize < multipartMinimum → Text.Writable sizes.partSize)
    (thresholdGiven : sizes.threshold < multipartMinimum → Text.Writable sizes.threshold) :
    (ofSizes multipartSize multipartThreshold sizes.bufferSize).uploadSizes =
      ⟨sizes.warnings, .ok sizes.adjusted⟩ := by
  have capped : offsetMaximum < max sizes.partSize multipartMinimum ↔
      offsetMaximum < sizes.partSize := by
    have ordered := multipart_minimum_le_offset_maximum
    omega
  rw [upload_sizes_eq sizes.bufferSize partSize threshold partGiven thresholdGiven,
    SizeWarning.when_congr _ _ capped, UploadSizes.warnings, List.append_assoc, List.append_assoc]
  rfl

/-- Whatever is set or left out, as long as sizes below the minimum can be written. The warnings
are, in this order, those about a part size and a threshold that are too small and those about a
part size and a buffer that are too large, each exactly where it applies, and all of them are
logged. A size is not what it was configured to be exactly when one warning names its field. No
field is named twice, and there are at most three warnings. -/
theorem adjustments_are_warned_about_once (multipartSize multipartThreshold : Option Int)
    (buffer : Int) (partGiven : Warnable multipartSize)
    (thresholdGiven : Warnable multipartThreshold) :
    ∃ (effective sizes : UploadSizes) (warnings : List SizeWarning),
      effective = {
        partSize := multipartSize.getD (100 * 1024 * 1024)
        threshold := multipartThreshold.getD (2 ^ 31 - 1)
        bufferSize := buffer } ∧
      (ofSizes multipartSize multipartThreshold buffer).uploadSizes = ⟨warnings, .ok sizes⟩ ∧
      warnings =
        (SizeWarning.belowMinimum "multipart_size" (5 * 1024 * 1024) effective.partSize).when
            (effective.partSize < 5 * 1024 * 1024) ++
          (SizeWarning.belowMinimum "multipart_threshold" (5 * 1024 * 1024)
            effective.threshold).when (effective.threshold < 5 * 1024 * 1024) ++
          (SizeWarning.capped "multipart_size").when (2 ^ 31 - 1 < effective.partSize) ++
          (SizeWarning.capped "fast_upload_buffer_size").when (2 ^ 31 - 1 < effective.bufferSize) ∧
      warnings.filterMap SizeWarning.record? = warnings.map SizeWarning.logRecord ∧
      (∀ field : SettingField, sizes.get field ≠ effective.get field ↔
        (warnings.map SizeWarning.fieldName).count field.name = 1) ∧
      (warnings.map SizeWarning.fieldName).Nodup ∧ warnings.length ≤ 3 := by
  have part := writable_given partGiven (by decide : multipartMinimum ≤ defaultMultipartSize)
  have threshold :=
    writable_given thresholdGiven (by decide : multipartMinimum ≤ defaultMultipartThreshold)
  refine ⟨_, _, _, rfl, upload_sizes_eq_adjusted ⟨_, _, buffer⟩ rfl rfl part threshold, rfl, ?_,
    ?_, ?_, ?_⟩
  · exact UploadSizes.log_of_warnings _ part threshold
  · exact UploadSizes.adjusted_iff_warned _
  · exact UploadSizes.warnings_name_once _
  · exact UploadSizes.length_warnings _

/-- A threshold that is too small beside a part size and a buffer that are both too large. -/
theorem three_adjustments_are_logged :
    ((ofSizes (some (2 ^ 40)) (some (-1)) (2 ^ 31)).uploadSizes.warnings.filterMap
        SizeWarning.record?).map LogRecord.text =
      ["multipart_threshold must be at least 5242880 bytes; configured value is -1",
        "objstore: multipart_size capped to ~2.14GB " ++
          "(maximum allowed size with current output mechanism)",
        "objstore: fast_upload_buffer_size capped to ~2.14GB " ++
          "(maximum allowed size with current output mechanism)"] := by
  have wide : Warnable (some (2 ^ 40)) := warnable_of_le (by decide)
  have negative : Warnable (some (-1)) := warnable_of_writable small_sizes_writable.2
  obtain ⟨effective, sizes, warnings, rfl, resolved, rfl, logged, _⟩ :=
    adjustments_are_warned_about_once (some (2 ^ 40)) (some (-1)) (2 ^ 31) wide negative
  rw [resolved]
  dsimp only
  rw [logged]
  rfl

end Settings

end ObjectStore
