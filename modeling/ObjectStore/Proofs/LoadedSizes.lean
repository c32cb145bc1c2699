import ObjectStore.Proofs.SettledSizes
import ObjectStore.Settings.Load

/-!
# Sizes that were loaded

However settings are loaded, each field then holds an integer, or nothing if it may be unset. Of
such settings the part size is always an offset: it is raised, and then capped where it is too
large. The buffer is capped alone, so a buffer below zero stays what it is.
-/

namespace ObjectStore

set_option autoImplicit false

inductive SettingField.Holds (field : SettingField) : Value → Prop
  | unset (possible : field.mayBeUnset = true) : Holds field .null
  | size (size : Int) : Holds field (.integer size)

namespace SettingField

theorem default_held (field : SettingField) : field.Holds field.defaultValue := by
  cases field with
  | fastUploadBufferSize => exact .size _
  | _ => exact .unset rfl

theorem validated_held {field : SettingField} {value loaded : Value}
    (validated : field.validate value = .ok loaded) : field.Holds loaded := by
  unfold validate at validated
  split at validated
  · split at validated
    · rename_i possible
      rw [← Except.ok.inj validated]
      exact .unset possible
    · cases validated
  · obtain ⟨size, _, rfl⟩ := (except_map_eq_ok _ _ _).mp validated
    exact .size size

theorem Holds.size_value {field : SettingField} {value : Value} (held : field.Holds value) :
    ∃ configured, value = Settings.sizeValue configured := by
  cases held with
  | unset => exact ⟨none, rfl⟩
  | size size => exact ⟨some size, rfl⟩

/-- Only a field that may be unset can hold nothing. -/
theorem Holds.size_of_required {field : SettingField} {value : Value} (held : field.Holds value)
    (required : field.mayBeUnset = false) : ∃ size, value = .integer size := by
  cases held with
  | unset possible =>
      rw [required] at possible
      cases possible
  | size size => exact ⟨size, rfl⟩

end SettingField

theorem SettingSources.loaded_held {sources : SettingSources} {field : SettingField}
    {loaded : Value} (made : sources.load field = .ok loaded) : field.Holds loaded := by
  unfold load at made
  split at made
  · exact SettingField.validated_held made
  · rw [← Except.ok.inj made]
    exact field.default_held

namespace Settings

def FillsFields {fault : Type} (load : SettingSources → Except fault Settings) : Prop :=
  ∀ sources settings, load sources = .ok settings →
    ∀ field, SettingField.Holds field (settings.get field)

theorem load_fills_fields : FillsFields load := by
  intro sources settings loaded field
  unfold load at loaded
  split at loaded
  · rename_i part threshold buffer
    rw [← Except.ok.inj loaded]
    cases field with
    | multipartSize => exact SettingSources.loaded_held part
    | multipartThreshold => exact SettingSources.loaded_held threshold
    | fastUploadBufferSize => exact SettingSources.loaded_held buffer
  · cases loaded

theorem sizes_of_filled {settings : Settings}
    (filled : ∀ field, SettingField.Holds field (settings.get field)) :
    ∃ multipartSize multipartThreshold buffer,
      settings = ofSizes multipartSize multipartThreshold buffer := by
  obtain ⟨multipartSize, part⟩ := (filled .multipartSize).size_value
  obtain ⟨multipartThreshold, threshold⟩ := (filled .multipartThreshold).size_value
  obtain ⟨buffer, bufferSet⟩ := (filled .fastUploadBufferSize).size_of_required rfl
  refine ⟨multipartSize, multipartThreshold, buffer, ?_⟩
  rw [ofSizes, ← part, ← threshold, ← bufferSet]
  rfl

/-- A cap leaves a size on its side of zero, and one below zero as it is. -/
theorem capped_buffer {settings : Settings} {buffer : Int}
    (held : settings.fastUploadBufferSize = .integer buffer) :
    ∃ size, settings.bufferSize.outcome = .ok size ∧ size ≤ 2 ^ 31 - 1 ∧
      (0 ≤ size ↔ 0 ≤ buffer) ∧ (buffer < 0 → size = buffer) := by
  have limit : (0 : Int) ≤ offsetMaximum := by decide
  rw [buffer_size_eq settings held]
  refine ⟨_, rfl, min_le_right _ _, ?_, ?_⟩
  · rw [le_min_iff]
    exact and_iff_left limit
  · intro negative
    exact min_eq_left (negative.le.trans limit)

/-- Settings that were loaded hold sizes, and these are resolved unless one that is too small cannot
be written. Then the part size is an offset, five mebibytes or more. The buffer, asked for with the
other sizes or on its own, is never above the largest offset, and it is an offset exactly when the
configured one is not negative. -/
theorem loaded_sizes_are_capped {fault : Type} (load : SettingSources → Except fault Settings)
    (fills : FillsFields load) (sources : SettingSources) (settings : Settings)
    (loaded : load sources = .ok settings) :
    ∃ multipartSize multipartThreshold buffer,
      settings = ofSizes multipartSize multipartThreshold buffer ∧
      (Warnable multipartSize → Warnable multipartThreshold →
        ∃ sizes, settings.uploadSizes.outcome = .ok sizes) ∧
      (∀ sizes, settings.uploadSizes.outcome = .ok sizes →
        5 * 1024 * 1024 ≤ sizes.partSize ∧ sizes.partSize ≤ 2 ^ 31 - 1 ∧
        settings.bufferSize.outcome = .ok sizes.bufferSize) ∧
      ∃ size, settings.bufferSize.outcome = .ok size ∧ size ≤ 2 ^ 31 - 1 ∧
        (0 ≤ size ↔ 0 ≤ buffer) ∧ (buffer < 0 → size = buffer) := by
  obtain ⟨multipartSize, multipartThreshold, buffer, rfl⟩ :=
    sizes_of_filled (fills sources settings loaded)
  refine ⟨multipartSize, multipartThreshold, buffer, rfl, ?_, ?_, capped_buffer rfl⟩
  · intro part threshold
    rw [upload_sizes_eq buffer rfl rfl (writable_given part (by decide))
      (writable_given threshold (by decide))]
    exact ⟨_, rfl⟩
  · intro sizes resolved
    have settled := resolved_settled resolved
    obtain ⟨_, _, _, _, buffered⟩ := (upload_sizes_outcome _ sizes).mp resolved
    exact ⟨settled.partRaised, settled.partCapped, buffered⟩

def edgeSources : SettingSources where
  arguments := []
  environment :=
    [("OBJSTORE_MULTIPART_SIZE", "0"), ("objstore_fast_upload_buffer_size", "2147483648")]
  file := none

theorem edge_sizes_are_capped :
    load edgeSources = .ok (ofSizes (some 0) none (2 ^ 31)) ∧
      (∃ sizes, (ofSizes (some 0) none (2 ^ 31)).uploadSizes.outcome = .ok sizes ∧
        5 * 1024 * 1024 ≤ sizes.partSize ∧ sizes.partSize ≤ 2 ^ 31 - 1) ∧
      ∃ size, (ofSizes (some 0) none (2 ^ 31)).bufferSize.outcome = .ok size ∧
        size ≤ 2 ^ 31 - 1 := by
  have loaded : load edgeSources = .ok (ofSizes (some 0) none (2 ^ 31)) := rfl
  obtain ⟨_, _, _, _, _, bounded, size, buffered, fits, _⟩ :=
    loaded_sizes_are_capped load load_fills_fields edgeSources _ loaded
  obtain ⟨sizes, resolved⟩ : ∃ sizes,
      (ofSizes (some 0) none (2 ^ 31)).uploadSizes.outcome = .ok sizes := by
    have part : (some 0).getD defaultMultipartSize = 0 := rfl
    have threshold : none.getD defaultMultipartThreshold = defaultMultipartThreshold := rfl
    rw [upload_sizes_eq (2 ^ 31) part threshold (fun _ => small_sizes_writable.1)
      (fun low => absurd low (by decide))]
    exact ⟨_, rfl⟩
  obtain ⟨least, most, _⟩ := bounded sizes resolved
  exact ⟨loaded, ⟨sizes, resolved, least, most⟩, size, buffered, fits⟩

/-- It is not so that every buffer comes out as an offset: nothing raises a negative one. -/
theorem negative_buffer_is_kept :
    ¬∀ (multipartSize multipartThreshold : Option Int) (buffer : Int),
      ∃ size, (ofSizes multipartSize multipartThreshold buffer).bufferSize.outcome = .ok size ∧
        0 ≤ size ∧ size ≤ 2 ^ 31 - 1 := by
  intro offsets
  obtain ⟨size, resolved, natural, _⟩ := offsets none none (-2 ^ 40)
  have kept : (ofSizes none none (-2 ^ 40)).bufferSize.outcome = .ok (-2 ^ 40) := rfl
  rw [kept] at resolved
  rw [← Except.ok.inj resolved] at natural
  exact absurd natural (by decide)

end Settings

end ObjectStore
