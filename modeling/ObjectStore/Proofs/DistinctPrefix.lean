import Mathlib.Data.Set.Card
import ObjectStore.Proofs.Growth

/-!
# The chain up to its first repetition

A chain that runs in a circle has no end, but it repeats itself, since there are only so many
failures. What comes before the first repetition is its longest part in which no failure stands
twice. All that the chain ever leads to stands in that part, so the part is as long as the number
of failures that can be reached.
-/

namespace ObjectStore.History

set_option autoImplicit false

/-- The failures at the start of a chain, as many as the list has, none of them twice. -/
structure DistinctPrefix (history : History) (start : FailureId) (failures : List FailureId) :
    Prop where
  on_chain : ∀ position id, failures[position]? = some id →
    history.after? start position = some id
  nodup : failures.Nodup

structure LongestDistinctPrefix (history : History) (start : FailureId)
    (failures : List FailureId) : Prop extends history.DistinctPrefix start failures where
  longest : ∀ other, history.DistinctPrefix start other → other.length ≤ failures.length

def reachedFrom (history : History) (start : FailureId) : Set FailureId :=
  {id | ∃ links, history.after? start links = some id}

section Prefixes

variable {history : History} {start : FailureId} {failures : List FailureId}

theorem reached_recorded (closed : history.Closed) (recorded : start < history.size)
    (id : FailureId) (reached : id ∈ history.reachedFrom start) : id < history.size := by
  obtain ⟨links, there⟩ := reached
  exact (history.extends_refl.after_before closed start recorded links id there).2

theorem DistinctPrefix.reached (distinct : history.DistinctPrefix start failures)
    (id : FailureId) (member : id ∈ failures) : id ∈ history.reachedFrom start := by
  obtain ⟨position, found⟩ := List.mem_iff_getElem?.mp member
  exact ⟨position, distinct.on_chain position id found⟩

/-- The chain tells which failure stands at a place of the list. -/
theorem DistinctPrefix.placed_of_after (distinct : history.DistinctPrefix start failures)
    (position : Nat) (within : position < failures.length) (id : FailureId)
    (reached : history.after? start position = some id) : failures[position]? = some id := by
  have placed : failures[position]? = some failures[position] :=
    List.getElem?_eq_getElem within
  have same := distinct.on_chain position failures[position] placed
  rw [reached] at same
  rw [placed, Option.some.inj same]

/-- Of two prefixes of one chain the longer one starts with the shorter one. -/
theorem DistinctPrefix.prefix_of_length_le {longer : List FailureId}
    (distinct : history.DistinctPrefix start failures)
    (distinctLonger : history.DistinctPrefix start longer)
    (shorter : failures.length ≤ longer.length) : failures <+: longer := by
  apply List.prefix_iff_getElem?.mpr
  intro position within
  have reached := distinct.on_chain position _ (List.getElem?_eq_getElem within)
  exact distinctLonger.placed_of_after position (Nat.lt_of_lt_of_le within shorter) _ reached

theorem DistinctPrefix.append (distinct : history.DistinctPrefix start failures)
    {id : FailureId} (reached : history.after? start failures.length = some id)
    (fresh : id ∉ failures) : history.DistinctPrefix start (failures ++ [id]) := by
  constructor
  · intro position other found
    by_cases within : position < failures.length
    · rw [List.getElem?_append_left within] at found
      exact distinct.on_chain position other found
    · have bound := (List.getElem?_eq_some_iff.mp found).1
      rw [List.length_append, List.length_singleton] at bound
      have last : position = failures.length := by omega
      rw [last, List.getElem?_concat_length] at found
      rw [last, ← Option.some.inj found]
      exact reached
  · rw [← List.concat_eq_append]
    exact List.Nodup.concat fresh distinct.nodup

/-- A prefix behind which nothing new comes is the longest. -/
theorem DistinctPrefix.longest_of_onward (distinct : history.DistinctPrefix start failures)
    (onward : ∀ id, history.after? start failures.length = some id → id ∈ failures) :
    history.LongestDistinctPrefix start failures := by
  refine ⟨distinct, ?_⟩
  intro other distinctOther
  apply Nat.le_of_not_lt
  intro longer
  have reached := distinctOther.on_chain failures.length _ (List.getElem?_eq_getElem longer)
  -- What the longer one goes on with stands in it already, since it starts with the shorter one.
  obtain ⟨position, found⟩ := List.mem_iff_getElem?.mp (onward _ reached)
  have within : position < failures.length := (List.getElem?_eq_some_iff.mp found).1
  have again := distinctOther.placed_of_after position (Nat.lt_trans within longer) _
    (distinct.on_chain position _ found)
  have same : position = failures.length := by
    apply (List.getElem?_inj (Nat.lt_trans within longer) distinctOther.nodup).mp
    rw [again, List.getElem?_eq_getElem longer]
  omega

theorem LongestDistinctPrefix.starts_with {other : List FailureId}
    (longest : history.LongestDistinctPrefix start failures)
    (distinct : history.DistinctPrefix start other) : other <+: failures := by
  apply distinct.prefix_of_length_le longest.toDistinctPrefix
  exact longest.longest other distinct

theorem LongestDistinctPrefix.onward
    (longest : history.LongestDistinctPrefix start failures) (id : FailureId)
    (reached : history.after? start failures.length = some id) : id ∈ failures := by
  apply Classical.byContradiction
  intro fresh
  have bound := longest.longest _ (longest.toDistinctPrefix.append reached fresh)
  rw [List.length_append, List.length_singleton] at bound
  omega

/-- Every failure down the chain stands in the longest prefix: each place of the prefix is
followed by the next one, and the last place by one of the earlier ones. -/
theorem LongestDistinctPrefix.mem_of_after
    (longest : history.LongestDistinctPrefix start failures) (links : Nat) (id : FailureId)
    (reached : history.after? start links = some id) : id ∈ failures := by
  have upToEnd : ∀ position other, position ≤ failures.length →
      history.after? start position = some other → other ∈ failures := by
    intro position other within there
    by_cases last : position = failures.length
    · rw [last] at there
      exact longest.onward other there
    · exact List.mem_of_getElem?
        (longest.toDistinctPrefix.placed_of_after position (by omega) other there)
  induction links generalizing id with
  | zero => exact upToEnd 0 id (Nat.zero_le _) reached
  | succ links ih =>
      obtain ⟨middle, before, linked⟩ := Option.bind_eq_some_iff.mp reached
      obtain ⟨position, found⟩ := List.mem_iff_getElem?.mp (ih middle before)
      have within : position < failures.length := (List.getElem?_eq_some_iff.mp found).1
      apply upToEnd (position + 1) id within
      rw [after?, longest.on_chain position middle found, Option.bind_some]
      exact linked

theorem LongestDistinctPrefix.reached_from_eq
    (longest : history.LongestDistinctPrefix start failures) :
    history.reachedFrom start = {id | id ∈ failures} := by
  ext id
  constructor
  · rintro ⟨links, reached⟩
    exact longest.mem_of_after links id reached
  · exact longest.toDistinctPrefix.reached id

theorem LongestDistinctPrefix.finite
    (longest : history.LongestDistinctPrefix start failures) :
    (history.reachedFrom start).Finite := by
  rw [longest.reached_from_eq]
  exact failures.finite_toSet

theorem LongestDistinctPrefix.length_eq_ncard
    (longest : history.LongestDistinctPrefix start failures) :
    failures.length = (history.reachedFrom start).ncard := by
  rw [longest.reached_from_eq, ← List.coe_toFinset, Set.ncard_coe_finset,
    List.toFinset_card_of_nodup longest.nodup]

/-- No prefix without repetitions is longer than the history. -/
theorem DistinctPrefix.length_le_size (closed : history.Closed)
    (recorded : start < history.size) (distinct : history.DistinctPrefix start failures) :
    failures.length ≤ history.size := by
  have within : failures ⊆ List.range history.size := by
    intro id member
    apply List.mem_range.mpr
    exact reached_recorded closed recorded id (distinct.reached id member)
  have bound := (distinct.nodup.subperm within).length_le
  rw [List.length_range] at bound
  exact bound

/-- As long as something new comes, a prefix is prolonged. It cannot outgrow the history. -/
theorem DistinctPrefix.prolonged (closed : history.Closed) (recorded : start < history.size)
    (distinct : history.DistinctPrefix start failures) :
    ∃ longer, history.LongestDistinctPrefix start longer := by
  induction room : history.size - failures.length generalizing failures with
  | zero =>
      refine ⟨failures, distinct.longest_of_onward ?_⟩
      intro id reached
      apply Classical.byContradiction
      intro fresh
      have bound := (distinct.append reached fresh).length_le_size closed recorded
      rw [List.length_append, List.length_singleton] at bound
      omega
  | succ room ih =>
      by_cases onward : ∀ id, history.after? start failures.length = some id → id ∈ failures
      · exact ⟨failures, distinct.longest_of_onward onward⟩
      · push Not at onward
        obtain ⟨id, reached, fresh⟩ := onward
        apply ih (distinct.append reached fresh)
        rw [List.length_append, List.length_singleton]
        omega

theorem longest_distinct_prefix_exists (closed : history.Closed)
    (recorded : start < history.size) :
    ∃ failures, history.LongestDistinctPrefix start failures := by
  have nothing : history.DistinctPrefix start [] := by
    constructor
    · intro position id found
      cases found
    · exact List.nodup_nil
  exact nothing.prolonged closed recorded

end Prefixes

end ObjectStore.History
