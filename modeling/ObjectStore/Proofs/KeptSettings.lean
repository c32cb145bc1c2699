import Mathlib.Data.List.Induction
import ObjectStore.Settings.Cache

/-!
# Which settings are kept

Surroundings change, settings are asked for and reset, in any order. What is given is what the first
load since the last reset gave that succeeded, whatever changed later; a load that fails leaves no
trace. An instance that was given once comes again until the next reset and never after it. How
settings are loaded, and what a load that fails says, makes no difference.
-/

namespace ObjectStore.Configuration

set_option autoImplicit false

variable {fault : Type}

inductive Turn where
  | put (name value : String)
  | drop (name : String)
  | write (file : Option String)
  | ask
  | reset
  deriving DecidableEq, Repr

/-- When the settings cannot be loaded, to have asked for them changes nothing. -/
def after (load : SettingSources → Except fault Settings) (configuration : Configuration) :
    Turn → Configuration
  | .put name value => configuration.putVariable name value
  | .drop name => configuration.dropVariable name
  | .write file => configuration.putFile file
  | .ask =>
      match configuration.settingsBy load with
      | .ok (later, _) => later
      | .error _ => configuration
  | .reset => configuration.reset

def run (load : SettingSources → Except fault Settings) (configuration : Configuration)
    (turns : List Turn) : Configuration :=
  turns.foldl (after load) configuration

variable {load : SettingSources → Except fault Settings}

theorem run_append (configuration : Configuration) (front back : List Turn) :
    configuration.run load (front ++ back) = (configuration.run load front).run load back :=
  List.foldl_append

theorem settings_eq_ok_iff (configuration later : Configuration) (given : SettingsInstance) :
    configuration.settingsBy load = .ok (later, given) ↔
      configuration.kept = some given ∧ later = configuration ∨
        configuration.kept = none ∧ given.number = configuration.made ∧
          load configuration.sources = .ok given.settings ∧
          later = { configuration with kept := some given, made := configuration.made + 1 } := by
  obtain ⟨number, values⟩ := given
  unfold settingsBy
  cases configuration.kept with
  | some kept =>
      simp only [Except.ok.injEq, Prod.mk.injEq, Option.some.injEq, reduceCtorEq, false_and,
        or_false]
      exact ⟨fun ⟨same, found⟩ => ⟨found, same.symm⟩, fun ⟨found, same⟩ => ⟨same.symm, found⟩⟩
  | none =>
      cases load configuration.sources with
      | error reason => simp
      | ok loaded =>
          simp only [Except.ok.injEq, Prod.mk.injEq, SettingsInstance.mk.injEq, reduceCtorEq,
            false_and, false_or, true_and]
          constructor
          · rintro ⟨rfl, rfl, rfl⟩
            exact ⟨rfl, rfl, rfl⟩
          · rintro ⟨rfl, rfl, rfl⟩
            exact ⟨rfl, rfl, rfl⟩

theorem settings_eq_error_iff (configuration : Configuration) (reason : fault) :
    configuration.settingsBy load = .error reason ↔
      configuration.kept = none ∧ load configuration.sources = .error reason := by
  unfold settingsBy
  cases configuration.kept with
  | some kept => simp
  | none => cases load configuration.sources <;> simp

theorem settings_of_unkept {configuration : Configuration} (empty : configuration.kept = none) :
    ((configuration.settingsBy load).map fun answer => answer.2.settings) =
      load configuration.sources := by
  unfold settingsBy
  rw [empty]
  cases load configuration.sources <;> rfl

theorem after_ask_given {configuration later : Configuration} {given : SettingsInstance}
    (asked : configuration.settingsBy load = .ok (later, given)) :
    configuration.after load .ask = later := by
  rw [after, asked]

theorem after_ask_refused {configuration : Configuration} {reason : fault}
    (refused : configuration.settingsBy load = .error reason) :
    configuration.after load .ask = configuration := by
  rw [after, refused]

theorem run_ask_given {start later : Configuration} {turns : List Turn} {given : SettingsInstance}
    (asked : (start.run load turns).settingsBy load = .ok (later, given)) :
    start.run load (turns ++ [.ask]) = later := by
  rw [run_append]
  exact after_ask_given asked

theorem run_ask_refused {start : Configuration} {turns : List Turn} {reason : fault}
    (refused : (start.run load turns).settingsBy load = .error reason) :
    start.run load (turns ++ [.ask]) = start.run load turns := by
  rw [run_append]
  exact after_ask_refused refused

/-- What was given is kept. -/
theorem kept_of_given {configuration later : Configuration} {given : SettingsInstance}
    (asked : configuration.settingsBy load = .ok (later, given)) : later.kept = some given := by
  rcases (configuration.settings_eq_ok_iff later given).mp asked with
    ⟨held, rfl⟩ | ⟨_, _, _, rfl⟩
  · exact held
  · rfl

/-- Only a reset drops what is kept. -/
theorem kept_after {configuration : Configuration} {given : SettingsInstance} {turn : Turn}
    (held : configuration.kept = some given) (unreset : turn ≠ .reset) :
    (configuration.after load turn).kept = some given := by
  cases turn with
  | ask => rw [after_ask_given (configuration.settings_of_kept load given held), held]
  | reset => exact absurd rfl unreset
  | _ => exact held

theorem kept_run {configuration : Configuration} {given : SettingsInstance} {turns : List Turn}
    (held : configuration.kept = some given) (unreset : .reset ∉ turns) :
    (configuration.run load turns).kept = some given := by
  induction turns generalizing configuration with
  | nil => exact held
  | cons turn rest ih =>
      obtain ⟨first, others⟩ := List.ne_and_not_mem_of_not_mem_cons unreset
      exact ih (kept_after held first.symm) others

/-- Nothing is loaded by itself. -/
theorem unkept_run {configuration : Configuration} {turns : List Turn}
    (empty : configuration.kept = none) (unasked : .ask ∉ turns) :
    (configuration.run load turns).kept = none := by
  induction turns generalizing configuration with
  | nil => exact empty
  | cons turn rest ih =>
      obtain ⟨first, others⟩ := List.ne_and_not_mem_of_not_mem_cons unasked
      apply ih ?_ others
      cases turn with
      | ask => exact absurd rfl first
      | reset => rfl
      | _ => exact empty

def Numbered (configuration : Configuration) : Prop :=
  ∀ kept, configuration.kept = some kept → kept.number < configuration.made

/-- A number was given out, and the instance with it is not the kept one. -/
def Gone (number : Nat) (configuration : Configuration) : Prop :=
  number < configuration.made ∧ ∀ kept, configuration.kept = some kept → kept.number ≠ number

theorem numbered_after {configuration : Configuration} (numbered : configuration.Numbered)
    (turn : Turn) :
    (configuration.after load turn).Numbered ∧
      configuration.made ≤ (configuration.after load turn).made := by
  cases turn with
  | ask =>
      cases asked : configuration.settingsBy load with
      | error reason =>
          rw [after_ask_refused asked]
          exact ⟨numbered, Nat.le_refl _⟩
      | ok answer =>
          obtain ⟨later, given⟩ := answer
          rw [after_ask_given asked]
          rcases (configuration.settings_eq_ok_iff later given).mp asked with
            ⟨_, rfl⟩ | ⟨_, number, _, rfl⟩
          · exact ⟨numbered, Nat.le_refl _⟩
          · refine ⟨?_, Nat.le_succ _⟩
            intro kept held
            obtain rfl : given = kept := Option.some.inj held
            exact Nat.lt_succ_of_le (Nat.le_of_eq number)
  | reset =>
      refine ⟨?_, Nat.le_refl _⟩
      intro kept held
      cases held
  | _ => exact ⟨numbered, Nat.le_refl _⟩

theorem numbered_run {configuration : Configuration} (numbered : configuration.Numbered)
    (turns : List Turn) :
    (configuration.run load turns).Numbered ∧
      configuration.made ≤ (configuration.run load turns).made := by
  induction turns generalizing configuration with
  | nil => exact ⟨numbered, Nat.le_refl _⟩
  | cons turn rest ih =>
      obtain ⟨still, more⟩ := numbered_after numbered turn
      obtain ⟨last, most⟩ := ih still
      exact ⟨last, Nat.le_trans more most⟩

theorem given_not_gone {number : Nat} {configuration later : Configuration}
    {given : SettingsInstance} (gone : Gone number configuration)
    (asked : configuration.settingsBy load = .ok (later, given)) :
    given.number ≠ number ∧ Gone number later := by
  obtain ⟨before, apart⟩ := gone
  rcases (configuration.settings_eq_ok_iff later given).mp asked with
    ⟨held, rfl⟩ | ⟨_, fresh, _, rfl⟩
  · exact ⟨apart given held, before, apart⟩
  · have other : given.number ≠ number := by omega
    refine ⟨other, Nat.lt_succ_of_lt before, ?_⟩
    intro kept held
    obtain rfl : given = kept := Option.some.inj held
    exact other

theorem gone_after {number : Nat} {configuration : Configuration} (gone : Gone number configuration)
    (turn : Turn) : Gone number (configuration.after load turn) := by
  cases turn with
  | ask =>
      cases asked : configuration.settingsBy load with
      | error reason =>
          rw [after_ask_refused asked]
          exact gone
      | ok answer =>
          rw [after_ask_given asked]
          exact (given_not_gone gone asked).2
  | reset =>
      refine ⟨gone.1, ?_⟩
      intro kept held
      cases held
  | _ => exact gone

theorem gone_run {number : Nat} {configuration : Configuration} (gone : Gone number configuration)
    (turns : List Turn) : Gone number (configuration.run load turns) := by
  induction turns generalizing configuration with
  | nil => exact gone
  | cons turn rest ih => exact ih (gone_after gone turn)

/-- What was given before a reset is gone after it. -/
theorem gone_of_reset {configuration : Configuration} {given : SettingsInstance}
    {turns : List Turn} (numbered : configuration.Numbered)
    (held : configuration.kept = some given) (reset : .reset ∈ turns) :
    Gone given.number (configuration.run load turns) := by
  obtain ⟨front, back, rfl⟩ := List.append_of_mem reset
  have atReset : Gone given.number ((configuration.run load front).after load .reset) := by
    refine ⟨Nat.lt_of_lt_of_le (numbered given held) (numbered_run numbered front).2, ?_⟩
    intro kept found
    cases found
  rw [run_append]
  exact gone_run atReset back

theorem numbered_of_unkept {configuration : Configuration} (empty : configuration.kept = none) :
    configuration.Numbered := by
  intro kept found
  rw [empty] at found
  cases found

/-- Numbers tell instances apart, so an instance comes again only as long as it is kept. -/
theorem given_again_iff {configuration : Configuration} {given : SettingsInstance}
    (numbered : configuration.Numbered) (held : configuration.kept = some given)
    (turns : List Turn) :
    (∃ later again, (configuration.run load turns).settingsBy load = .ok (later, again) ∧
      again.number = given.number) ↔ .reset ∉ turns := by
  constructor
  · rintro ⟨later, again, asked, same⟩ reset
    exact (given_not_gone (gone_of_reset numbered held reset) asked).1 same
  · intro unreset
    exact ⟨_, given, settings_of_kept load _ given (kept_run held unreset), rfl⟩

/-- Since the last reset, or since the start, the settings were asked for in vain. -/
structure Unloaded (load : SettingSources → Except fault Settings) (start : Configuration)
    (before waiting : List Turn) : Prop where
  opening : before = [] ∨ ∃ earlier, before = earlier ++ [.reset]
  unreset : .reset ∉ waiting
  refused : ∀ front, front ++ [.ask] <+: waiting →
    ∃ reason, (start.run load (before ++ front)).settingsBy load = .error reason

/-- Since the last reset the first load that succeeded gave this instance. The call that made it
load is followed by the rest of the turns, and a reset is not among them. -/
structure LoadedFirst (load : SettingSources → Except fault Settings) (start : Configuration)
    (turns : List Turn) (given : SettingsInstance) (before waiting rest : List Turn) : Prop where
  split : turns = before ++ waiting ++ .ask :: rest
  unloaded : Unloaded load start before waiting
  unreset : .reset ∉ rest
  asked : ∃ later, (start.run load (before ++ waiting)).settingsBy load = .ok (later, given)
  loaded : load (start.run load (before ++ waiting)).sources = .ok given.settings

theorem Unloaded.push {start : Configuration} {before waiting : List Turn} {turn : Turn}
    (unloaded : Unloaded load start before waiting) (unreset : turn ≠ .reset)
    (refused : turn = .ask →
      ∃ reason, (start.run load (before ++ waiting)).settingsBy load = .error reason) :
    Unloaded load start before (waiting ++ [turn]) := by
  refine ⟨unloaded.opening, ?_, ?_⟩
  · intro member
    rcases List.mem_append.mp member with earlier | last
    · exact unloaded.unreset earlier
    · exact unreset (List.mem_singleton.mp last).symm
  · intro front leads
    rcases List.prefix_concat_iff.mp leads with whole | earlier
    · obtain ⟨rfl, last⟩ := List.append_inj' whole rfl
      exact refused (List.cons.inj last).1.symm
    · exact unloaded.refused front earlier

theorem LoadedFirst.push {start : Configuration} {turns before waiting rest : List Turn}
    {given : SettingsInstance} {turn : Turn}
    (first : LoadedFirst load start turns given before waiting rest) (unreset : turn ≠ .reset) :
    LoadedFirst load start (turns ++ [turn]) given before waiting (rest ++ [turn]) := by
  refine ⟨?_, first.unloaded, ?_, first.asked, first.loaded⟩
  · rw [first.split, List.append_assoc, List.cons_append]
  · intro member
    rcases List.mem_append.mp member with earlier | last
    · exact first.unreset earlier
    · exact unreset (List.mem_singleton.mp last).symm

inductive Account (load : SettingSources → Except fault Settings) (start : Configuration)
    (turns : List Turn) : Option SettingsInstance → Prop where
  | nothing (before waiting : List Turn) (split : turns = before ++ waiting)
      (unloaded : Unloaded load start before waiting) : Account load start turns none
  | kept (given : SettingsInstance) (before waiting rest : List Turn)
      (first : LoadedFirst load start turns given before waiting rest) :
      Account load start turns (some given)

theorem Account.push_surroundings {start : Configuration} {turns : List Turn}
    {kept : Option SettingsInstance} (account : Account load start turns kept) {turn : Turn}
    (unasked : turn ≠ .ask) (unreset : turn ≠ .reset) :
    Account load start (turns ++ [turn]) kept := by
  cases account with
  | nothing before waiting split unloaded =>
      rw [split, List.append_assoc]
      exact .nothing before _ rfl (unloaded.push unreset fun ask => absurd ask unasked)
  | kept given before waiting rest first => exact .kept given before waiting _ (first.push unreset)

theorem Account.push_ask {start : Configuration} {turns : List Turn}
    (account : Account load start turns (start.run load turns).kept) :
    Account load start (turns ++ [.ask]) ((start.run load turns).after load .ask).kept := by
  cases held : (start.run load turns).kept with
  | some given =>
      rw [kept_after held (by decide)]
      rw [held] at account
      obtain _ | ⟨_, before, waiting, rest, first⟩ := account
      exact .kept given before waiting _ (first.push (by decide))
  | none =>
      rw [held] at account
      obtain ⟨before, waiting, rfl, unloaded⟩ := account
      cases asked : (start.run load (before ++ waiting)).settingsBy load with
      | error reason =>
          rw [after_ask_refused asked, held]
          exact .nothing before _ (List.append_assoc ..)
            (unloaded.push (by decide) fun _ => ⟨reason, asked⟩)
      | ok answer =>
          obtain ⟨later, given⟩ := answer
          rw [after_ask_given asked, kept_of_given asked]
          rcases (settings_eq_ok_iff _ later given).mp asked with
            ⟨found, _⟩ | ⟨_, _, loaded, _⟩
          · rw [held] at found
            cases found
          · exact .kept given before waiting []
              ⟨rfl, unloaded, List.not_mem_nil, ⟨later, asked⟩, loaded⟩

theorem unloaded_opening {start : Configuration} {before : List Turn}
    (opening : before = [] ∨ ∃ earlier, before = earlier ++ [.reset]) :
    Unloaded load start before [] := by
  refine ⟨opening, List.not_mem_nil, ?_⟩
  intro front leads
  cases front <;> simp at leads

/-- The induction is on the last turn, since what is kept is decided by the latest turns. -/
theorem account_run {start : Configuration} (fresh : start.kept = none) (turns : List Turn) :
    Account load start turns (start.run load turns).kept := by
  induction turns using List.reverseRecOn with
  | nil =>
      change Account load start [] start.kept
      rw [fresh]
      exact .nothing [] [] rfl (unloaded_opening (Or.inl rfl))
  | append_singleton turns turn ih =>
      rw [run_append]
      cases turn with
      | ask => exact ih.push_ask
      | reset =>
          exact .nothing (turns ++ [.reset]) [] (List.append_nil _).symm
            (unloaded_opening (Or.inr ⟨turns, rfl⟩))
      | _ => exact ih.push_surroundings (by simp) (by simp)

/-- Whenever the settings are asked for. An instance that was given before is given again exactly
when there was no reset since. What is given holds the values that the surroundings had for the
first call since the last reset that could load. When loading fails, so does the call, and the next
one loads again. -/
theorem settings_kept_until_reset (load : SettingSources → Except fault Settings)
    (start : Configuration) (fresh : start.kept = none) (turns : List Turn) :
    (∀ later first between, (start.run load turns).settingsBy load = .ok (later, first) →
      ((∃ last again, (later.run load between).settingsBy load = .ok (last, again) ∧
          again.number = first.number) ↔ .reset ∉ between) ∧
      (.reset ∉ between →
        (later.run load between).settingsBy load = .ok (later.run load between, first))) ∧
    (∀ later given, (start.run load turns).settingsBy load = .ok (later, given) →
      ∃ before waiting rest,
        LoadedFirst load start (turns ++ [.ask]) given before waiting rest) ∧
    ∀ reason,
      ((start.run load turns).settingsBy load = .error reason ↔
        (start.run load turns).kept = none ∧
          load (start.run load turns).sources = .error reason) ∧
      ((start.run load turns).settingsBy load = .error reason →
        start.run load (turns ++ [.ask]) = start.run load turns ∧
        ∀ between, .ask ∉ between →
          (((start.run load (turns ++ .ask :: between)).settingsBy load).map
              fun answer => answer.2.settings) =
            load (start.run load (turns ++ .ask :: between)).sources) := by
  refine ⟨?_, ?_, ?_⟩
  · intro later first between asked
    have held := kept_of_given asked
    have numbered : later.Numbered := by
      rw [← run_ask_given asked]
      exact (numbered_run (numbered_of_unkept fresh) _).1
    refine ⟨given_again_iff numbered held between, ?_⟩
    intro unreset
    exact settings_of_kept load _ first (kept_run held unreset)
  · intro later given asked
    have account : Account load start (turns ++ [.ask]) _ := account_run fresh _
    rw [run_ask_given asked, kept_of_given asked] at account
    obtain _ | ⟨_, before, waiting, rest, first⟩ := account
    exact ⟨before, waiting, rest, first⟩
  · intro reason
    refine ⟨(start.run load turns).settings_eq_error_iff reason, ?_⟩
    intro refused
    refine ⟨run_ask_refused refused, ?_⟩
    intro between unasked
    apply settings_of_unkept
    rw [List.append_cons, run_append, run_ask_refused refused]
    exact unkept_run (((start.run load turns).settings_eq_error_iff reason).mp refused).1 unasked

def repairedTurns : List Turn :=
  [.put "OBJSTORE_MULTIPART_SIZE" "many", .ask, .put "OBJSTORE_MULTIPART_SIZE" "8388608"]

/-- The size is dropped again while the settings are kept, and they are reset at last. -/
theorem repaired_settings_kept_until_reset :
    (empty.run Settings.load [.put "OBJSTORE_MULTIPART_SIZE" "many"]).settings =
        .error [⟨.multipartSize, .unparsable⟩] ∧
      empty.run Settings.load [.put "OBJSTORE_MULTIPART_SIZE" "many", .ask] =
        empty.run Settings.load [.put "OBJSTORE_MULTIPART_SIZE" "many"] ∧
      ∃ later given, (empty.run Settings.load repairedTurns).settings = .ok (later, given) ∧
        given.settings.multipartSize = .integer 8388608 ∧
        (later.run Settings.load [.drop "OBJSTORE_MULTIPART_SIZE"]).settings =
          .ok (later.run Settings.load [.drop "OBJSTORE_MULTIPART_SIZE"], given) ∧
        (∃ before waiting rest,
          LoadedFirst Settings.load empty (repairedTurns ++ [.ask]) given before waiting rest) ∧
        ¬∃ last again,
          (later.run Settings.load [.drop "OBJSTORE_MULTIPART_SIZE", .reset]).settings =
            .ok (last, again) ∧ again.number = given.number := by
  have refused : (empty.run Settings.load [.put "OBJSTORE_MULTIPART_SIZE" "many"]).settings =
      .error [⟨.multipartSize, .unparsable⟩] := rfl
  obtain ⟨later, given, asked, size⟩ : ∃ later given,
      (empty.run Settings.load repairedTurns).settings = .ok (later, given) ∧
        given.settings.multipartSize = .integer 8388608 := ⟨_, _, rfl, rfl⟩
  obtain ⟨_, _, failure⟩ :=
    settings_kept_until_reset Settings.load empty rfl [.put "OBJSTORE_MULTIPART_SIZE" "many"]
  obtain ⟨again, first, _⟩ := settings_kept_until_reset Settings.load empty rfl repairedTurns
  refine ⟨refused, ((failure _).2 refused).1, later, given, asked, size, ?_, ?_, ?_⟩
  · exact (again later given [.drop "OBJSTORE_MULTIPART_SIZE"] asked).2 (by decide)
  · exact first later given asked
  · apply (again later given [.drop "OBJSTORE_MULTIPART_SIZE", .reset] asked).1.not.mpr
    decide

end ObjectStore.Configuration
