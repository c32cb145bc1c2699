import ObjectStore.Proofs.Guarding

/-!
# Handing a classified error on

A classified error that was raised travels as a storage failure: through guards, out of futures, or
under a failure that was raised from it. Whichever way it takes, extraction gives back the very
classified error that was raised, and neither makes another one nor looks at the cause. So it is
after any number of rounds in which what was given back is raised again.
-/

namespace ObjectStore

set_option autoImplicit false

namespace Journal

/-- Nothing that was recorded is forgotten or becomes another failure. Links may have changed. -/
structure Remembers (earlier later : Journal) : Prop where
  size_le : earlier.history.size ≤ later.history.size
  failures : ∀ id, id < earlier.history.size → later.failure id = earlier.failure id

theorem remembers_refl (journal : Journal) : journal.Remembers journal :=
  ⟨Nat.le_refl _, fun _ _ => rfl⟩

theorem Remembers.trans {first second third : Journal} (start : first.Remembers second)
    (finish : second.Remembers third) : first.Remembers third := by
  constructor
  · exact Nat.le_trans start.size_le finish.size_le
  · intro id recorded
    rw [finish.failures id (Nat.lt_of_lt_of_le recorded start.size_le),
      start.failures id recorded]

/-- The sources in which a failure is handed on: itself, a future of either owner that failed with
it, and a failure of some other origin that was raised from it. -/
inductive HandsOn (journal : Journal) (raised : FailureId) : Source → Prop where
  | itself : HandsOn journal raised (.failure raised)
  | future (owner : FutureOwner) : HandsOn journal raised (.future owner (.failed raised))
  | wrapped (wrapper : FailureId)
      (foreign : (journal.failure wrapper).isFromClient = false)
      (unclassified : (journal.failure wrapper).isStorage = false)
      (linked : (journal.history.occurrence wrapper).cause = some raised) :
      HandsOn journal raised (.failure wrapper)

theorem HandsOn.unwraps {journal : Journal} {raised : FailureId} {source : Source}
    {issued : Classification} (handed : journal.HandsOn raised source)
    (stored : journal.failure raised = .ofClassification issued) :
    journal.history.Unwraps source (some raised) := by
  cases handed with
  | itself =>
      apply History.Unwraps.itself raised (Or.inr (Or.inr ?_))
      change (journal.failure raised).isStorage = true
      rw [stored]
      rfl
  | future owner => exact .failed owner raised
  | wrapped wrapper foreign unclassified linked =>
      -- What the library raises always counts as true, so the wrapper is looked through.
      apply History.Unwraps.wrapped wrapper raised foreign unclassified linked
      change (journal.failure raised).truth = true
      rw [stored]
      rfl

theorem raised_remembered {journal later : Journal} {issued : Classification}
    {handled : Option FailureId} (remembered : (journal.raise issued handled).1.Remembers later) :
    later.failure (journal.raise issued handled).2 = .ofClassification issued := by
  change later.failure journal.nextId = .ofClassification issued
  rw [remembered.failures journal.nextId (journal.raised_recorded issued handled),
    journal.failure_raise issued handled]

theorem raised_linked (journal : Journal) (issued : Classification) (handled : Option FailureId) :
    ((journal.raise issued handled).1.history.occurrence
      (journal.raise issued handled).2).cause = some issued.error.cause := by
  change ((journal.raise issued handled).1.history.occurrence journal.nextId).cause = _
  rw [journal.raised_occurrence issued handled]

theorem guard_nested_passes_stored (layers : List GuardLayer) (journal : Journal)
    (raised : FailureId) (log : List LogRecord) {issued : Classification}
    (stored : journal.failure raised = .ofClassification issued) :
    guardNested layers ⟨journal, .raised raised, log⟩ = ⟨journal, .raised raised, log⟩ := by
  apply guard_nested_passes layers _ raised rfl
  change (journal.failure raised).isFromClient = false
  rw [stored]
  rfl

theorem extract_handed_on {journal : Journal} {raised : FailureId} {source : Source}
    {issued : Classification} (stored : journal.failure raised = .ofClassification issued)
    (handed : journal.HandsOn raised source) (operation : String) {path : Path}
    {label : Option String} (labelled : path.label? = .ok label) :
    journal.extract operation path source = .ok (journal, issued) := by
  have carries := carries_of_classification issued
  rw [← stored] at carries
  exact journal.extract_stored operation path source label labelled raised (handed.unwraps stored)
    issued carries.foreign carries.held

/-- Rounds in which a classified error is raised, passes guards, is handed on and extracted, and in
which the error that was extracted is the one to be raised next. On the way failures may be recorded
and links changed. -/
inductive Rounds (start : Journal) (first : Classification) :
    Nat → Journal → Classification → Prop where
  | unraised : Rounds start first 0 start first
  | again {count : Nat} {journal outside later finish : Journal} {issued returned : Classification}
      (earlier : Rounds start first count journal issued) (handled : Option FailureId)
      (remembered : (journal.raise issued handled).1.Remembers outside)
      (log : List LogRecord) (layers : List GuardLayer) (left : BlockRun)
      (guarded : guardNested layers ⟨outside, .raised (journal.raise issued handled).2, log⟩ = left)
      (raised : FailureId) (leaves : left.ending = .raised raised)
      (kept : left.journal.Remembers later)
      (source : Source) (handed : later.HandsOn raised source) (operation : String) (path : Path)
      (extracted : later.extract operation path source = .ok (finish, returned)) :
      Rounds start first (count + 1) finish returned

theorem rounds_return_first {start : Journal} {first : Classification} {count : Nat}
    {journal : Journal} {issued : Classification}
    (rounds : Rounds start first count journal issued) : issued = first := by
  induction rounds with
  | unraised => rfl
  | @again count journal outside later finish issued returned _ handled remembered log layers left
      guarded raised leaves kept source handed operation path extracted ih =>
      -- The guards leave the block as it was, so what is handed on is the failure just raised.
      rw [guard_nested_passes_stored layers outside _ log (raised_remembered remembered)] at guarded
      subst guarded
      obtain rfl : (journal.raise issued handled).2 = raised := BlockEnd.raised.inj leaves
      have stored := raised_remembered (remembered.trans kept)
      obtain ⟨label, _, labelled, _, _⟩ :=
        (later.extract_eq_ok_iff operation path source (finish, returned)).mp extracted
      rw [extract_handed_on stored handed operation labelled] at extracted
      cases extracted
      exact ih

/-- After any number of rounds the classified error is still the one that was raised first. When it
is raised again, from its cause, every guard lets it through, and every way of handing it on gives
it back, under every operation and every path that has a label. Nothing new is handed out. -/
theorem classified_error_is_never_replaced (start : Journal) (first : Classification)
    (count : Nat) (journal : Journal) (issued : Classification)
    (rounds : Rounds start first count journal issued) :
    issued = first ∧
    ∀ handled : Option FailureId,
      ((journal.raise issued handled).1.history.occurrence
        (journal.raise issued handled).2).cause = some first.error.cause ∧
      ∀ later : Journal, (journal.raise issued handled).1.Remembers later →
        (∀ (layers : List GuardLayer) (log : List LogRecord),
          guardNested layers ⟨later, .raised (journal.raise issued handled).2, log⟩ =
            ⟨later, .raised (journal.raise issued handled).2, log⟩) ∧
        ∀ (source : Source) (operation : String) (path : Path) (label : Option String),
          later.HandsOn (journal.raise issued handled).2 source → path.label? = .ok label →
          later.extract operation path source = .ok (later, first) := by
  obtain rfl : issued = first := rounds_return_first rounds
  refine ⟨rfl, ?_⟩
  intro handled
  refine ⟨journal.raised_linked issued handled, ?_⟩
  intro later remembered
  have stored := raised_remembered remembered
  constructor
  · intro layers log
    exact guard_nested_passes_stored layers later _ log stored
  · intro source operation path label handed labelled
    exact extract_handed_on stored handed operation labelled

/-- A refused access whose cause is a timeout, which extraction itself would call generic. -/
def refusedAccess : Classification where
  number := 7
  error := {
    variant := .accessDenied
    message := "getObject on data/key: denied"
    operation := "getObject"
    cause := 0
    path := some "data/key"
    statusCode := some 403 }

def refusedAccessRaised : Journal × FailureId :=
  (timedOutJournal.raise refusedAccess none).1.raise refusedAccess (some 0)

def refusedAccessWrapped : Journal :=
  refusedAccessRaised.1.record
    ((Occurrence.fresh (.ofArguments "RuntimeError" [.text "upload"])).raisedFrom
      (some refusedAccessRaised.2))

/-- The refused access goes through a guard and out of a future, is raised again, and comes back
from under the failure that was raised from it. -/
theorem refused_access_returns :
    timedOutJournal.Rounds refusedAccess 1 (timedOutJournal.raise refusedAccess none).1
        refusedAccess ∧
      refusedAccessRaised.1.Remembers refusedAccessWrapped ∧
      refusedAccessWrapped.HandsOn refusedAccessRaised.2 (.failure 5) ∧
      refusedAccessWrapped.extract "putObject" (.posix "other//key") (.failure 5) =
        .ok (refusedAccessWrapped, refusedAccess) := by
  have round : timedOutJournal.Rounds refusedAccess 1 (timedOutJournal.raise refusedAccess none).1
      refusedAccess :=
    .again .unraised none (remembers_refl _) [] [⟨"headObject", .absent⟩] _ rfl
      timedOutJournal.nextId rfl (remembers_refl _) (.future .eventLoop (.failed _)) (.future _)
      "listObjects" .absent rfl
  have remembered : refusedAccessRaised.1.Remembers refusedAccessWrapped :=
    ⟨(History.extends_record _ _).size_le, (History.extends_record _ _).failure⟩
  have handed : refusedAccessWrapped.HandsOn refusedAccessRaised.2 (.failure 5) :=
    .wrapped 5 rfl rfl rfl
  obtain ⟨_, again⟩ := classified_error_is_never_replaced _ _ _ _ _ round
  obtain ⟨_, onward⟩ := again (some 0)
  obtain ⟨_, returned⟩ := onward refusedAccessWrapped remembered
  exact ⟨round, remembered, handed,
    returned (.failure 5) "putObject" (.posix "other//key") _ handed rfl⟩

end Journal

end ObjectStore
