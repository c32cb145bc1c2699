import ObjectStore.Proofs.ResolvedSizes

/-!
# Settled upload sizes

Sizes that were resolved lie within their bounds, and sizes within their bounds are resolved to
themselves without a warning. So resolving settles after one time. Larger settings never give a
smaller size, and since the minimum lies below the cap, a part size may be capped first and raised
afterwards.
-/

namespace ObjectStore

set_option autoImplicit false

theorem multipart_minimum_le_offset_maximum : multipartMinimum ≤ offsetMaximum := by decide

/-- A configured size that is too small can be written in the warning about it. -/
def Warnable (configured : Option Int) : Prop :=
  ∀ size, configured = some size → size < multipartMinimum → Text.Writable size

theorem warnable_of_writable {size : Int} (writable : Text.Writable size) :
    Warnable (some size) := by
  rintro _ ⟨⟩ _
  exact writable

/-- Going on with what leaves the result as it is changes nothing. -/
theorem Warned.and_then_same {α : Type} (first : Warned α) (next : α → Warned α)
    (same : ∀ result, first.outcome = .ok result → next result = value result) :
    first.andThen next = first := by
  obtain ⟨warnings, outcome⟩ := first
  cases outcome with
  | error fault => rfl
  | ok result =>
      change Warned.mk (warnings ++ (next result).warnings) (next result).outcome = _
      rw [same result rfl, value, List.append_nil]

theorem raise_to_minimum_of_le (name : String) {minimum configured : Int}
    (enough : minimum ≤ configured) :
    raiseToMinimum name minimum configured = Warned.value configured := by
  rw [raiseToMinimum, if_neg (not_lt.mpr enough), Warned.pure_eq_value]

theorem cap_to_offset_of_le (name : String) {size : Int} (fits : size ≤ offsetMaximum) :
    capToOffset name size = Warned.value size := by
  rw [capToOffset, if_neg (not_lt.mpr fits), Warned.pure_eq_value]

/-- Also where a warning could not be written: then there is no outcome. -/
theorem raise_to_minimum_outcome {name : String} {minimum configured size : Int}
    (raised : (raiseToMinimum name minimum configured).outcome = .ok size) :
    size = max configured minimum := by
  by_cases low : configured < minimum
  · rw [raiseToMinimum, if_pos low, Warned.bind_eq_and_then, Warned.and_then_outcome] at raised
    obtain ⟨_, _, same⟩ := raised
    rw [max_eq_right low.le]
    exact (Except.ok.inj same).symm
  · rw [raise_to_minimum_of_le name (not_lt.mp low)] at raised
    rw [max_eq_left (not_lt.mp low)]
    exact (Except.ok.inj raised).symm

theorem cap_to_offset_outcome {name : String} {size capped : Int}
    (made : (capToOffset name size).outcome = .ok capped) : capped = min size offsetMaximum := by
  rw [cap_to_offset_eq] at made
  exact (Except.ok.inj made).symm

/-- Whatever the size, and whether or not it can be written. -/
theorem raise_then_cap_eq_cap_then_raise (name : String) (size : Int) :
    (raiseToMinimum name multipartMinimum size).andThen (capToOffset name) =
      (capToOffset name size).andThen (raiseToMinimum name multipartMinimum) := by
  have ordered := multipart_minimum_le_offset_maximum
  rcases lt_or_ge size multipartMinimum with low | enough
  · rw [cap_to_offset_of_le name (low.le.trans ordered), Warned.value_and_then]
    apply Warned.and_then_same
    intro result raised
    apply cap_to_offset_of_le
    rw [raise_to_minimum_outcome raised]
    exact max_le (low.le.trans ordered) ordered
  · rw [raise_to_minimum_of_le name enough, Warned.value_and_then]
    symm
    apply Warned.and_then_same
    intro result capped
    apply raise_to_minimum_of_le
    rw [cap_to_offset_outcome capped]
    exact le_min enough ordered

structure UploadSizes.Settled (sizes : UploadSizes) : Prop where
  partRaised : multipartMinimum ≤ sizes.partSize
  partCapped : sizes.partSize ≤ offsetMaximum
  thresholdRaised : multipartMinimum ≤ sizes.threshold
  bufferCapped : sizes.bufferSize ≤ offsetMaximum

structure UploadSizes.AtMost (left right : UploadSizes) : Prop where
  partSize : left.partSize ≤ right.partSize
  threshold : left.threshold ≤ right.threshold
  bufferSize : left.bufferSize ≤ right.bufferSize

namespace Settings

def putSizes (settings : Settings) (sizes : UploadSizes) : Settings :=
  ((settings.set .multipartSize (.integer sizes.partSize)).set .multipartThreshold
    (.integer sizes.threshold)).set .fastUploadBufferSize (.integer sizes.bufferSize)

theorem put_sizes_eq (settings : Settings) (sizes : UploadSizes) :
    settings.putSizes sizes =
      ofSizes (some sizes.partSize) (some sizes.threshold) sizes.bufferSize := rfl

theorem number_read_iff (read : Except NumberFault Int) (number : Int) :
    (Warned.ofExcept (read.mapError .number)).outcome = .ok number ↔ read = .ok number := by
  cases read <;> simp [Except.mapError, Warned.ofExcept, Warned.stop, Warned.value]

theorem multipart_property_outcome (settings : Settings) (field : SettingField)
    (fallback size : Int) :
    (settings.multipartProperty field fallback).outcome = .ok size ↔
      ∃ configured, settings.configuredSize field fallback = .ok configured ∧
        (raiseToMinimum field.name multipartMinimum configured).outcome = .ok size := by
  simp only [multipartProperty, Warned.bind_eq_and_then, Warned.and_then_outcome, number_read_iff]

theorem buffer_size_outcome {settings : Settings} {size : Int}
    (made : settings.bufferSize.outcome = .ok size) : size ≤ offsetMaximum := by
  rw [bufferSize, Warned.bind_eq_and_then, Warned.and_then_outcome] at made
  obtain ⟨configured, _, capped⟩ := made
  rw [cap_to_offset_outcome capped]
  exact min_le_right _ _

theorem resolved_settled {settings : Settings} {sizes : UploadSizes}
    (resolved : settings.uploadSizes.outcome = .ok sizes) : sizes.Settled := by
  obtain ⟨part, partRaised, thresholdRaised, partCapped, buffered⟩ :=
    (settings.upload_sizes_outcome sizes).mp resolved
  obtain ⟨_, _, raised⟩ := (settings.multipart_property_outcome _ _ part).mp partRaised
  obtain ⟨_, _, threshold⟩ := (settings.multipart_property_outcome _ _ _).mp thresholdRaised
  have capped := cap_to_offset_outcome partCapped
  refine ⟨?_, ?_, ?_, buffer_size_outcome buffered⟩
  · rw [capped, raise_to_minimum_outcome raised]
    exact le_min (le_max_right _ _) multipart_minimum_le_offset_maximum
  · rw [capped]
    exact min_le_right _ _
  · rw [raise_to_minimum_outcome threshold]
    exact le_max_right _ _

theorem upload_sizes_of_settled {sizes : UploadSizes} (settled : sizes.Settled) :
    (ofSizes (some sizes.partSize) (some sizes.threshold) sizes.bufferSize).uploadSizes =
      Warned.value sizes := by
  have partSet : (some sizes.partSize).getD defaultMultipartSize = sizes.partSize := rfl
  have thresholdSet :
      (some sizes.threshold).getD defaultMultipartThreshold = sizes.threshold := rfl
  have part := not_lt.mpr settled.partRaised
  have threshold := not_lt.mpr settled.thresholdRaised
  rw [upload_sizes_eq sizes.bufferSize partSet thresholdSet (fun low => absurd low part)
      (fun low => absurd low threshold),
    max_eq_left settled.partRaised, min_eq_left settled.partCapped,
    max_eq_left settled.thresholdRaised, min_eq_left settled.bufferCapped,
    SizeWarning.when_of_not _ _ part, SizeWarning.when_of_not _ _ threshold,
    SizeWarning.when_of_not _ _ (not_lt.mpr settled.partCapped),
    SizeWarning.when_of_not _ _ (not_lt.mpr settled.bufferCapped)]
  rfl

theorem put_sizes_settled {settings : Settings} {sizes : UploadSizes}
    (resolved : settings.uploadSizes.outcome = .ok sizes) :
    (settings.putSizes sizes).uploadSizes = Warned.value sizes := by
  rw [put_sizes_eq]
  exact upload_sizes_of_settled (resolved_settled resolved)

/-- The size that the part size is made from may be capped before it is raised. -/
theorem part_size_capped_first {settings : Settings} {sizes : UploadSizes}
    (resolved : settings.uploadSizes.outcome = .ok sizes) :
    ∃ configured,
      settings.configuredSize .multipartSize defaultMultipartSize = .ok configured ∧
      ((capToOffset SettingField.multipartSize.name configured).andThen
        (raiseToMinimum SettingField.multipartSize.name multipartMinimum)).outcome =
          .ok sizes.partSize ∧
      sizes.partSize = max (min configured offsetMaximum) multipartMinimum := by
  obtain ⟨part, raised, _, capped, _⟩ := (settings.upload_sizes_outcome sizes).mp resolved
  obtain ⟨configured, read, raised⟩ := (settings.multipart_property_outcome _ _ part).mp raised
  have swapped : ((capToOffset SettingField.multipartSize.name configured).andThen
      (raiseToMinimum SettingField.multipartSize.name multipartMinimum)).outcome =
        .ok sizes.partSize := by
    rw [← raise_then_cap_eq_cap_then_raise, Warned.and_then_outcome]
    exact ⟨part, raised, capped⟩
  refine ⟨configured, read, swapped, ?_⟩
  obtain ⟨_, cappedFirst, raisedLast⟩ := (Warned.and_then_outcome _ _ _).mp swapped
  rw [raise_to_minimum_outcome raisedLast, cap_to_offset_outcome cappedFirst]

/-- Sizes that can be written are resolved, larger ones to sizes that are no smaller. -/
theorem resolved_at_most {part otherPart threshold otherThreshold buffer otherBuffer : Int}
    (partLess : part ≤ otherPart) (thresholdLess : threshold ≤ otherThreshold)
    (bufferLess : buffer ≤ otherBuffer) (partGiven : Warnable (some part))
    (thresholdGiven : Warnable (some threshold)) (otherPartGiven : Warnable (some otherPart))
    (otherThresholdGiven : Warnable (some otherThreshold)) :
    ∃ sizes others,
      (ofSizes (some part) (some threshold) buffer).uploadSizes.outcome = .ok sizes ∧
      (ofSizes (some otherPart) (some otherThreshold) otherBuffer).uploadSizes.outcome =
        .ok others ∧ sizes.AtMost others := by
  have resolved (part threshold buffer : Int) (partGiven : Warnable (some part))
      (thresholdGiven : Warnable (some threshold)) :=
    upload_sizes_eq buffer (rfl : (some part).getD defaultMultipartSize = part)
      (rfl : (some threshold).getD defaultMultipartThreshold = threshold)
      (partGiven part rfl) (thresholdGiven threshold rfl)
  rw [resolved part threshold buffer partGiven thresholdGiven,
    resolved otherPart otherThreshold otherBuffer otherPartGiven otherThresholdGiven]
  refine ⟨_, _, rfl, rfl, ?_, ?_, ?_⟩
  · exact min_le_min_right _ (max_le_max_right _ partLess)
  · exact max_le_max_right _ thresholdLess
  · exact min_le_min_right _ bufferLess

/-- Resolved sizes that are put back are resolved to themselves in silence. This holds for sizes
set or unset, as long as those below the minimum can be written, and for whatever else a program
assigns, if it is resolved at all. Of settings that are all set, larger ones give sizes that are no
smaller. The part size may be capped first and raised afterwards, with the same warnings. -/
theorem resolving_settles_in_silence :
    (∀ (multipartSize multipartThreshold : Option Int) (buffer : Int),
      Warnable multipartSize → Warnable multipartThreshold →
      ∃ sizes, (ofSizes multipartSize multipartThreshold buffer).uploadSizes.outcome = .ok sizes ∧
        ((ofSizes multipartSize multipartThreshold buffer).putSizes sizes).uploadSizes =
          ⟨[], .ok sizes⟩ ∧
        ((capToOffset "multipart_size" (multipartSize.getD defaultMultipartSize)).andThen
          (raiseToMinimum "multipart_size" multipartMinimum)).outcome = .ok sizes.partSize ∧
        sizes.partSize =
          max (min (multipartSize.getD (100 * 1024 * 1024)) (2 ^ 31 - 1)) (5 * 1024 * 1024)) ∧
    (∀ (settings : Settings) (sizes : UploadSizes), settings.uploadSizes.outcome = .ok sizes →
      (settings.putSizes sizes).uploadSizes = ⟨[], .ok sizes⟩) ∧
    (∀ part otherPart threshold otherThreshold buffer otherBuffer : Int,
      part ≤ otherPart → threshold ≤ otherThreshold → buffer ≤ otherBuffer →
      Warnable (some part) → Warnable (some threshold) →
      Warnable (some otherPart) → Warnable (some otherThreshold) →
      ∃ sizes others,
        (ofSizes (some part) (some threshold) buffer).uploadSizes.outcome = .ok sizes ∧
        (ofSizes (some otherPart) (some otherThreshold) otherBuffer).uploadSizes.outcome =
          .ok others ∧ sizes.AtMost others) ∧
    ∀ (name : String) (size : Int),
      (capToOffset name size).andThen (raiseToMinimum name multipartMinimum) =
        (raiseToMinimum name multipartMinimum size).andThen (capToOffset name) := by
  refine ⟨?_, ?_, ?_, ?_⟩
  · intro multipartSize multipartThreshold buffer partGiven thresholdGiven
    obtain ⟨sizes, resolved⟩ : ∃ sizes,
        (ofSizes multipartSize multipartThreshold buffer).uploadSizes.outcome = .ok sizes := by
      rw [upload_sizes_eq buffer rfl rfl (writable_given partGiven (by decide))
        (writable_given thresholdGiven (by decide))]
      exact ⟨_, rfl⟩
    obtain ⟨configured, read, capped⟩ := part_size_capped_first resolved
    rw [configured_size_eq rfl, Except.ok.injEq] at read
    subst read
    exact ⟨sizes, resolved, put_sizes_settled resolved, capped⟩
  · intro settings sizes resolved
    exact put_sizes_settled resolved
  · intro part otherPart threshold otherThreshold buffer otherBuffer
    exact resolved_at_most
  · intro name size
    exact (raise_then_cap_eq_cap_then_raise name size).symm

theorem warnable_of_le {size : Int} (enough : multipartMinimum ≤ size) : Warnable (some size) := by
  rintro _ ⟨⟩ low
  exact absurd low (not_lt.mpr enough)

/-- A part size of zero is raised, a buffer of one tebibyte is capped, and both then stay. So do
the sizes read from a text and a truth value. A size on each side of the range is kept in order. -/
theorem adjusted_sizes_settle :
    (∃ sizes, (ofSizes (some 0) none (2 ^ 40)).uploadSizes.outcome = .ok sizes ∧
        ((ofSizes (some 0) none (2 ^ 40)).putSizes sizes).uploadSizes = ⟨[], .ok sizes⟩ ∧
        ((capToOffset "multipart_size" 0).andThen
          (raiseToMinimum "multipart_size" multipartMinimum)).outcome = .ok sizes.partSize ∧
        sizes.partSize = max (min 0 (2 ^ 31 - 1)) (5 * 1024 * 1024)) ∧
      (assignedSettings.putSizes ⟨8_000_000, 7_000_000, 1⟩).uploadSizes =
        ⟨[], .ok ⟨8_000_000, 7_000_000, 1⟩⟩ ∧
      ∃ sizes others, (ofSizes (some (-1)) (some 0) (-1)).uploadSizes.outcome = .ok sizes ∧
        (ofSizes (some (2 ^ 31)) (some (2 ^ 31)) (2 ^ 31)).uploadSizes.outcome = .ok others ∧
        sizes.AtMost others := by
  obtain ⟨settles, kept, ordered, _⟩ := resolving_settles_in_silence
  obtain ⟨zero, negative⟩ := small_sizes_writable
  have unset : Warnable none := by simp [Warnable]
  refine ⟨?_, ?_, ?_⟩
  · exact settles (some 0) none (2 ^ 40) (warnable_of_writable zero) unset
  · exact kept assignedSettings _ rfl
  · exact ordered _ _ _ _ _ _ (by decide) (by decide) (by decide)
      (warnable_of_writable negative) (warnable_of_writable zero)
      (warnable_of_le (by decide)) (warnable_of_le (by decide))

end Settings

end ObjectStore
