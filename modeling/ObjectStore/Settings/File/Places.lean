/-!
# Places for names in a value

A dollar sign and a name in braces stand for the text of the name. A fallback may follow the name;
it is used for a name without a text. A dollar sign that starts no such place is itself.
-/

namespace ObjectStore.SettingsFile

set_option autoImplicit false

/-- A place for a name, after its opening brace: the name, the text to fall back on, and what
follows the closing brace. -/
def place? (content : List Char) : Option (String × Option String × List Char) :=
  let name := String.ofList (content.takeWhile fun c => c != '\x7d' && c != ':')
  match content.dropWhile fun c => c != '\x7d' && c != ':' with
  | '\x7d' :: suffix => some (name, none, suffix)
  | ':' :: '-' :: rest =>
      match rest.dropWhile (· != '\x7d') with
      | _ :: suffix => some (name, some (String.ofList (rest.takeWhile (· != '\x7d'))), suffix)
      | [] => none
  | _ => none

theorem place_shorter (content suffix : List Char) (name : String) (fallback : Option String)
    (found : place? content = some (name, fallback, suffix)) :
    suffix.length < content.length := by
  have kept := (List.dropWhile_suffix (l := content) fun c => c != '\x7d' && c != ':').length_le
  unfold place? at found
  dsimp only at found
  split at found
  · rename_i after cut
    rw [cut, List.length_cons] at kept
    simp only [Option.some.injEq, Prod.mk.injEq] at found
    rw [← found.2.2]
    omega
  · rename_i rest cut
    rw [cut, List.length_cons, List.length_cons] at kept
    have inner := (List.dropWhile_suffix (l := rest) (· != '\x7d')).length_le
    split at found
    · rename_i closing after innerCut
      rw [innerCut, List.length_cons] at inner
      simp only [Option.some.injEq, Prod.mk.injEq] at found
      rw [← found.2.2]
      omega
    · simp at found
  · simp at found

def expand (read : String → Option String) (content : List Char) : List Char :=
  match content with
  | [] => []
  | '$' :: '\x7b' :: rest =>
      match _found : place? rest with
      | some (name, fallback, suffix) =>
          ((read name).getD (fallback.getD "")).toList ++ expand read suffix
      | none => '$' :: expand read ('\x7b' :: rest)
  | c :: rest => c :: expand read rest
termination_by content.length
decreasing_by
  · have shorter := place_shorter _ _ _ _ _found
    simp only [List.length_cons]
    omega
  · simp
  · simp

end ObjectStore.SettingsFile
