import ObjectStore.Settings.Field
import ObjectStore.Upload.Warned

/-!
# Upload sizes

Parts are at least five mebibytes, the smallest that the service accepts, and the output buffer is
indexed by signed numbers of 32 bits, which caps the parts written through it and the buffer
itself. The threshold has no cap. A configured size of zero is configured; only an unset one falls
back to the default.
-/

namespace ObjectStore

set_option autoImplicit false

def multipartMinimum : Int := 5 * 1024 * 1024

def offsetMaximum : Int := 0x7FFFFFFF

def defaultMultipartSize : Int := 100 * 1024 * 1024

def defaultMultipartThreshold : Int := offsetMaximum

structure UploadSizes where
  partSize : Int
  threshold : Int
  bufferSize : Int
  deriving DecidableEq, Repr, Inhabited

def raiseToMinimum (name : String) (minimum configured : Int) : Warned Int :=
  if configured < minimum then do
    Warned.warn (.belowMinimum name minimum configured)
    return minimum
  else return configured

def capToOffset (name : String) (size : Int) : Warned Int :=
  if offsetMaximum < size then do
    Warned.warn (.capped name)
    return offsetMaximum
  else return size

namespace Settings

def configuredSize (settings : Settings) (field : SettingField) (fallback : Int) :
    Except NumberFault Int :=
  match settings.get field with
  | .null => .ok fallback
  | value => value.wholeNumber

def multipartProperty (settings : Settings) (field : SettingField) (fallback : Int) :
    Warned Int := do
  let size ← Warned.ofExcept ((settings.configuredSize field fallback).mapError .number)
  raiseToMinimum field.name multipartMinimum size

def namedProperty (settings : Settings) (name : String) (fallback : Int) : Warned Int :=
  match SettingField.find name with
  | .ok field => settings.multipartProperty field fallback
  | .error unknown => Warned.stop (.field unknown)

def bufferSize (settings : Settings) : Warned Int := do
  let size ← Warned.ofExcept (settings.fastUploadBufferSize.wholeNumber.mapError .number)
  capToOffset SettingField.fastUploadBufferSize.name size

/-- All three sizes. The two multipart sizes are raised before the part size is capped. -/
def uploadSizes (settings : Settings) : Warned UploadSizes := do
  let part ← settings.multipartProperty .multipartSize defaultMultipartSize
  let threshold ← settings.multipartProperty .multipartThreshold defaultMultipartThreshold
  let partSize ← capToOffset SettingField.multipartSize.name part
  let bufferSize ← settings.bufferSize
  return { partSize, threshold, bufferSize }

end Settings

end ObjectStore
