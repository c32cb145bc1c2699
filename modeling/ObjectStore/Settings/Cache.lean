import ObjectStore.Settings.Load

/-!
# Cached settings

The settings of a program are loaded when they are first asked for and kept until they are reset.
A load that fails keeps nothing. The environment and the settings file are read by loading only.
Every load that succeeds makes a new instance, known by its number.
-/

namespace ObjectStore

set_option autoImplicit false

structure SettingsInstance where
  number : Nat
  settings : Settings
  deriving Repr

structure Configuration where
  environment : Environment
  file : Option String
  kept : Option SettingsInstance
  made : Nat
  deriving Repr

namespace Configuration

def empty : Configuration where
  environment := []
  file := none
  kept := none
  made := 0

instance : Inhabited Configuration := ⟨empty⟩

def sources (configuration : Configuration) : SettingSources where
  arguments := []
  environment := configuration.environment
  file := configuration.file

def putVariable (configuration : Configuration) (name value : String) : Configuration :=
  { configuration with environment := Entries.put configuration.environment name value }

def dropVariable (configuration : Configuration) (name : String) : Configuration :=
  { configuration with environment := Entries.drop configuration.environment name }

def putFile (configuration : Configuration) (file : Option String) : Configuration :=
  { configuration with file := file }

def reset (configuration : Configuration) : Configuration :=
  { configuration with kept := none }

/-- The kept instance, or else a new one, loaded in the given way, which is kept. -/
def settingsBy {fault : Type} (load : SettingSources → Except fault Settings)
    (configuration : Configuration) : Except fault (Configuration × SettingsInstance) :=
  match configuration.kept with
  | some kept => .ok (configuration, kept)
  | none =>
      match load configuration.sources with
      | .ok settings =>
          let fresh : SettingsInstance := ⟨configuration.made, settings⟩
          .ok ({ configuration with kept := some fresh, made := configuration.made + 1 }, fresh)
      | .error reason => .error reason

def settings (configuration : Configuration) :
    Except LoadFault (Configuration × SettingsInstance) :=
  configuration.settingsBy Settings.load

def assign (configuration : Configuration) (field : SettingField) (value : Value) :
    Configuration :=
  { configuration with
    kept := configuration.kept.map fun kept =>
      { kept with settings := kept.settings.set field value } }

def assignNamed (configuration : Configuration) (name : String) (value : Value) :
    Except UnknownField Configuration :=
  (SettingField.find name).map fun field => configuration.assign field value

theorem settings_of_kept {fault : Type} (load : SettingSources → Except fault Settings)
    (configuration : Configuration) (kept : SettingsInstance)
    (held : configuration.kept = some kept) :
    configuration.settingsBy load = .ok (configuration, kept) := by
  simp [settingsBy, held]

end Configuration

end ObjectStore
