import ObjectStore.Value

/-!
# Settings

Three sizes govern uploads. Loading gives each of them a whole number, or nothing for the two that
may be unset. A program may later assign any value to a field, so a field holds a loosely typed
value until a size is asked of it.
-/

namespace ObjectStore

set_option autoImplicit false

inductive SettingField where
  | multipartSize
  | multipartThreshold
  | fastUploadBufferSize
  deriving DecidableEq, Repr, Inhabited

namespace SettingField

def all : List SettingField :=
  [multipartSize, multipartThreshold, fastUploadBufferSize]

def name : SettingField → String
  | multipartSize => "multipart_size"
  | multipartThreshold => "multipart_threshold"
  | fastUploadBufferSize => "fast_upload_buffer_size"

def ofName? (word : String) : Option SettingField :=
  all.find? fun field => field.name = word

def mayBeUnset : SettingField → Bool
  | fastUploadBufferSize => false
  | _ => true

def defaultValue : SettingField → Value
  | fastUploadBufferSize => .integer (64 * 1024 * 1024)
  | _ => .null

theorem of_name_name (field : SettingField) : ofName? field.name = some field := by
  cases field <;> decide

end SettingField

structure UnknownField where
  name : String
  deriving DecidableEq, Repr

namespace UnknownField

def readMessage (unknown : UnknownField) : String :=
  s!"'Settings' object has no attribute '{unknown.name}'"

def assignMessage (unknown : UnknownField) : String :=
  "\"Settings\" object has no field \"" ++ unknown.name ++ "\""

end UnknownField

def SettingField.find (name : String) : Except UnknownField SettingField :=
  match SettingField.ofName? name with
  | some field => .ok field
  | none => .error ⟨name⟩

structure Settings where
  multipartSize : Value
  multipartThreshold : Value
  fastUploadBufferSize : Value
  deriving Repr, BEq, Inhabited

namespace Settings

def get (settings : Settings) : SettingField → Value
  | .multipartSize => settings.multipartSize
  | .multipartThreshold => settings.multipartThreshold
  | .fastUploadBufferSize => settings.fastUploadBufferSize

/-- Assigns a value as it is, whatever its type. -/
def set (settings : Settings) (field : SettingField) (value : Value) : Settings :=
  match field with
  | .multipartSize => { settings with multipartSize := value }
  | .multipartThreshold => { settings with multipartThreshold := value }
  | .fastUploadBufferSize => { settings with fastUploadBufferSize := value }

def sizeValue : Option Int → Value
  | some size => .integer size
  | none => .null

def ofSizes (multipartSize multipartThreshold : Option Int) (fastUploadBufferSize : Int) :
    Settings where
  multipartSize := sizeValue multipartSize
  multipartThreshold := sizeValue multipartThreshold
  fastUploadBufferSize := .integer fastUploadBufferSize

end Settings

end ObjectStore
