import ObjectStore.Settings.ByteSize
import ObjectStore.Settings.File

/-!
# Loading settings

Each field is taken from the first source that mentions it: the arguments of the constructor, the
environment, the settings file, and last the default. Only that one value is checked. In the
environment and in the file a field goes by its name behind a fixed leader. Letter case does not
matter in any source. Of several spellings the first one counts among the arguments and the last
one in the environment and in the file. Nothing that is proved of settings depends on these rules.
-/

namespace ObjectStore

set_option autoImplicit false

/-- Variables in the order in which their names were first set. -/
abbrev Environment := Entries String

def settingLeader : String := "objstore_"

def firstSpelling? {α : Type} (name : String) (entries : Entries α) : Option α :=
  (entries.find? fun entry => Text.lowerCase entry.1 == name).map (·.2)

def lastSpelling? {α : Type} (name : String) (entries : Entries α) : Option α :=
  firstSpelling? name entries.reverse

def SettingField.outerName (field : SettingField) : String :=
  settingLeader ++ field.name

structure SettingSources where
  arguments : Record
  environment : Environment
  file : Option String
  deriving Repr

namespace SettingSources

def fileBindings (sources : SettingSources) : Entries (Option String) :=
  match sources.file with
  | some content => SettingsFile.read sources.environment content
  | none => []

def given? (sources : SettingSources) (field : SettingField) : Option Value :=
  match firstSpelling? field.name sources.arguments with
  | some value => some value
  | none =>
      match lastSpelling? field.outerName sources.environment with
      | some text => some (.text text)
      | none => ((lastSpelling? field.outerName sources.fileBindings).getD none).map Value.text

/-- The checked value of a field. The default needs no check. -/
def load (sources : SettingSources) (field : SettingField) : Except SizeFault Value :=
  match sources.given? field with
  | some value => field.validate value
  | none => .ok field.defaultValue

end SettingSources

structure FieldFault where
  field : SettingField
  fault : SizeFault
  deriving DecidableEq, Repr

def FieldFault.message (fault : FieldFault) : String :=
  fault.field.name ++ ": " ++ fault.fault.message

abbrev LoadFault := List FieldFault

def LoadFault.message (faults : LoadFault) : String :=
  "; ".intercalate (faults.map FieldFault.message)

namespace Settings

def faultOf (sources : SettingSources) (field : SettingField) : Option FieldFault :=
  match sources.load field with
  | .ok _ => none
  | .error fault => some ⟨field, fault⟩

def load (sources : SettingSources) : Except LoadFault Settings :=
  match sources.load .multipartSize, sources.load .multipartThreshold,
      sources.load .fastUploadBufferSize with
  | .ok multipartSize, .ok multipartThreshold, .ok fastUploadBufferSize =>
      .ok { multipartSize, multipartThreshold, fastUploadBufferSize }
  | _, _, _ => .error (SettingField.all.filterMap (faultOf sources))

end Settings

end ObjectStore
