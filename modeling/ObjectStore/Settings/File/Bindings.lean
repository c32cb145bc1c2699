import ObjectStore.Text.Blank

/-!
# Bindings of a settings file

A settings file binds names to values, one binding a line. A line may start with the word export,
names and values may be quoted, quoted values may go on over several lines, and comments start
with a hash. A line that is none of this is dropped from the place where it stops making sense.
-/

namespace ObjectStore.SettingsFile

set_option autoImplicit false

/-- A name, with a value when an equals sign follows it. -/
abbrev Binding := String × Option String

def isLineEnd (c : Char) : Bool :=
  c == '\n' || c == '\r'

def isGap (c : Char) : Bool :=
  Text.isSpace c && !isLineEnd c

def hash : Char := '#'
def singleQuote : Char := '\x27'
def doubleQuote : Char := '\x22'
def backslash : Char := '\x5c'

def unifyLineEnds : List Char → List Char
  | '\r' :: '\n' :: rest => '\n' :: unifyLineEnds rest
  | '\r' :: rest => '\n' :: unifyLineEnds rest
  | c :: rest => c :: unifyLineEnds rest
  | [] => []

def dropByteOrderMark : List Char → List Char
  | '\ufeff' :: rest => rest
  | content => content

def skipGap (content : List Char) : List Char :=
  content.dropWhile isGap

def skipLine (content : List Char) : List Char :=
  (content.dropWhile (!isLineEnd ·)).drop 1

def skipExport : List Char → List Char
  | 'e' :: 'x' :: 'p' :: 'o' :: 'r' :: 't' :: rest =>
      match rest with
      | c :: _ => if isGap c then skipGap rest else ['e', 'x', 'p', 'o', 'r', 't'] ++ rest
      | [] => ['e', 'x', 'p', 'o', 'r', 't']
  | content => content

def isNameCharacter (c : Char) : Bool :=
  !(c == '=' || c == hash || Text.isSpace c)

/-- A name, or none in place of a comment. A quoted name must be closed, and no name is empty. -/
def name? : List Char → Option (Option String × List Char)
  | [] => none
  | c :: rest =>
      if c = hash then some (none, rest.dropWhile (!isLineEnd ·))
      else if c = singleQuote then
        match rest.takeWhile (· != singleQuote), rest.dropWhile (· != singleQuote) with
        | first :: others, _ :: suffix => some (some (String.ofList (first :: others)), suffix)
        | _, _ => none
      else if isNameCharacter c then
        some (some (String.ofList (c :: rest.takeWhile isNameCharacter)),
          rest.dropWhile isNameCharacter)
      else none

def doubleEscape? (c : Char) : Option Char :=
  if c = backslash ∨ c = singleQuote ∨ c = doubleQuote then some c
  else if c = 'a' then some '\x07'
  else if c = 'b' then some '\x08'
  else if c = 'f' then some '\x0c'
  else if c = 'n' then some '\n'
  else if c = 'r' then some '\r'
  else if c = 't' then some '\t'
  else if c = 'v' then some '\x0b'
  else none

def singleEscape? (c : Char) : Option Char :=
  if c = backslash ∨ c = singleQuote then some c else none

/-- The value up to the closing mark, and what follows. A backslash takes the character after it
along, so a mark there does not close. The known escapes are replaced, all others stay. -/
def quotedValue? (mark : Char) (known : Char → Option Char) :
    List Char → Option (List Char × List Char)
  | [] => none
  | [c] => if c = mark then some ([], []) else none
  | c :: d :: rest =>
      if c = mark then some ([], d :: rest)
      else if c = backslash then
        (quotedValue? mark known rest).map fun (value, suffix) =>
          match known d with
          | some replacement => (replacement :: value, suffix)
          | none => (c :: d :: value, suffix)
      else (quotedValue? mark known (d :: rest)).map fun (value, suffix) => (c :: value, suffix)

/-- The part of a plain value before a hash that follows white space. -/
def beforeComment : Bool → List Char → List Char
  | _, [] => []
  | afterSpace, c :: rest =>
      if afterSpace && c == hash then [] else c :: beforeComment (Text.isSpace c) rest

def trimEnd (content : List Char) : List Char :=
  (content.reverse.dropWhile Text.isSpace).reverse

/-- The value after an equals sign and a gap, of which the flag tells whether it was there. -/
def value? (afterGap : Bool) (content : List Char) : Option (String × List Char) :=
  let plain :=
    (String.ofList (trimEnd (beforeComment afterGap (content.takeWhile (!isLineEnd ·)))),
      content.dropWhile (!isLineEnd ·))
  match content with
  | [] => some plain
  | c :: rest =>
      if c = singleQuote then
        (quotedValue? singleQuote singleEscape? rest).map fun (value, suffix) =>
          (String.ofList value, suffix)
      else if c = doubleQuote then
        (quotedValue? doubleQuote doubleEscape? rest).map fun (value, suffix) =>
          (String.ofList value, suffix)
      else some plain

def skipComment (content : List Char) : List Char :=
  match skipGap content with
  | c :: rest => if c = hash then rest.dropWhile (!isLineEnd ·) else content
  | [] => content

/-- What follows a line end after a gap; the end of the file ends a line. -/
def lineEnd? (content : List Char) : Option (List Char) :=
  match skipGap content with
  | [] => some []
  | c :: rest => if isLineEnd c then some rest else none

def finish (name : Option String) (value : Option String) (content : List Char) :
    Option Binding × List Char :=
  let rest := skipComment content
  match lineEnd? rest with
  | some suffix => (name.map fun name => (name, value), suffix)
  | none => (none, skipLine rest)

/-- One binding, or nothing for a comment and for a line that makes no sense, and what follows. -/
def binding (content : List Char) : Option Binding × List Char :=
  let start := skipExport content
  match name? start with
  | none => (none, skipLine start)
  | some (name, suffix) =>
      match skipGap suffix with
      | '=' :: rest =>
          let trimmed := skipGap rest
          match value? (trimmed.length < rest.length) trimmed with
          | some (value, after) => finish name (some value) after
          | none => (none, skipLine trimmed)
      | after => finish name none after

/-! Every binding uses up a part of the file. -/

theorem skip_gap_length (content : List Char) : (skipGap content).length ≤ content.length :=
  (List.dropWhile_suffix _).length_le

theorem skip_line_length (content : List Char) : (skipLine content).length ≤ content.length := by
  have kept := (List.dropWhile_suffix (l := content) (!isLineEnd ·)).length_le
  rw [skipLine, List.length_drop]
  omega

theorem skip_line_shorter (c : Char) (rest : List Char) :
    (skipLine (c :: rest)).length < (c :: rest).length := by
  by_cases lineEnd : isLineEnd c = true
  · simp [skipLine, lineEnd]
  · have kept := skip_line_length rest
    have same : skipLine (c :: rest) = skipLine rest := by simp [skipLine, lineEnd]
    rw [same, List.length_cons]
    omega

theorem skip_export_length (content : List Char) :
    (skipExport content).length ≤ content.length := by
  unfold skipExport
  split
  · split
    · rename_i c rest
      have kept := skip_gap_length (c :: rest)
      split
      · simp only [List.length_cons] at kept ⊢
        omega
      · simp
    · simp
  · exact Nat.le_refl _

theorem name_shorter (content suffix : List Char) (name : Option String)
    (found : name? content = some (name, suffix)) : suffix.length < content.length := by
  cases content with
  | nil => simp [name?] at found
  | cons c rest =>
      have keptBy (p : Char → Bool) : (rest.dropWhile p).length ≤ rest.length :=
        (List.dropWhile_suffix p).length_le
      simp only [name?] at found
      split at found
      · have kept := keptBy (!isLineEnd ·)
        simp only [Option.some.injEq, Prod.mk.injEq] at found
        rw [← found.2, List.length_cons]
        omega
      · split at found
        · split at found
          · rename_i closing after _ cut
            have kept := keptBy (· != singleQuote)
            rw [cut, List.length_cons] at kept
            simp only [Option.some.injEq, Prod.mk.injEq] at found
            rw [← found.2, List.length_cons]
            omega
          · simp at found
        · split at found
          · have kept := keptBy isNameCharacter
            simp only [Option.some.injEq, Prod.mk.injEq] at found
            rw [← found.2, List.length_cons]
            omega
          · simp at found

theorem quoted_value_length (mark : Char) (known : Char → Option Char)
    (content value suffix : List Char)
    (found : quotedValue? mark known content = some (value, suffix)) :
    suffix.length ≤ content.length := by
  fun_induction quotedValue? mark known content generalizing value suffix with
  | case1 => simp at found
  | case2 =>
      simp only [Option.some.injEq, Prod.mk.injEq] at found
      simp [← found.2]
  | case3 => simp at found
  | case4 d rest =>
      simp only [Option.some.injEq, Prod.mk.injEq] at found
      simp [← found.2]
  | case5 d rest escaped ih =>
      simp only [Option.map_eq_some_iff] at found
      obtain ⟨⟨later, after⟩, read, made⟩ := found
      have same : after = suffix := by
        split at made <;> exact congrArg Prod.snd made
      have kept := ih later after read
      simp only [List.length_cons, ← same]
      omega
  | case6 c d rest notClosing plain ih =>
      simp only [Option.map_eq_some_iff, Prod.mk.injEq] at found
      obtain ⟨⟨later, after⟩, read, _, rfl⟩ := found
      have kept := ih later after read
      simp only [List.length_cons] at kept ⊢
      omega

theorem value_length (afterGap : Bool) (content suffix : List Char) (value : String)
    (found : value? afterGap content = some (value, suffix)) :
    suffix.length ≤ content.length := by
  have plainKept := (List.dropWhile_suffix (l := content) (!isLineEnd ·)).length_le
  cases content with
  | nil =>
      simp only [value?, Option.some.injEq, Prod.mk.injEq] at found
      rw [← found.2]
      exact plainKept
  | cons c rest =>
      simp only [value?] at found
      split at found
      · simp only [Option.map_eq_some_iff, Prod.mk.injEq] at found
        obtain ⟨⟨inside, after⟩, read, _, rfl⟩ := found
        have kept := quoted_value_length _ _ _ _ _ read
        rw [List.length_cons]
        exact Nat.le_succ_of_le kept
      · split at found
        · simp only [Option.map_eq_some_iff, Prod.mk.injEq] at found
          obtain ⟨⟨inside, after⟩, read, _, rfl⟩ := found
          have kept := quoted_value_length _ _ _ _ _ read
          rw [List.length_cons]
          exact Nat.le_succ_of_le kept
        · simp only [Option.some.injEq, Prod.mk.injEq] at found
          rw [← found.2]
          exact plainKept

theorem skip_comment_length (content : List Char) :
    (skipComment content).length ≤ content.length := by
  have kept := skip_gap_length content
  unfold skipComment
  split
  · rename_i c rest start
    rw [start, List.length_cons] at kept
    have cut := (List.dropWhile_suffix (l := rest) (!isLineEnd ·)).length_le
    split
    · omega
    · exact Nat.le_refl _
  · exact Nat.le_refl _

theorem line_end_length (content suffix : List Char) (found : lineEnd? content = some suffix) :
    suffix.length ≤ content.length := by
  have kept := skip_gap_length content
  unfold lineEnd? at found
  split at found
  · simp only [Option.some.injEq] at found
    simp [← found]
  · rename_i c rest start
    rw [start, List.length_cons] at kept
    split at found
    · simp only [Option.some.injEq] at found
      rw [← found]
      omega
    · simp at found

theorem finish_length (name value : Option String) (content : List Char) :
    (finish name value content).2.length ≤ content.length := by
  have kept := skip_comment_length content
  unfold finish
  dsimp only
  split
  · rename_i suffix found
    exact Nat.le_trans (line_end_length _ _ found) kept
  · exact Nat.le_trans (skip_line_length _) kept

theorem binding_shorter (c : Char) (rest : List Char) :
    (binding (c :: rest)).2.length < (c :: rest).length := by
  have exported := skip_export_length (c :: rest)
  unfold binding
  dsimp only
  split
  · cases start : skipExport (c :: rest) with
    | nil => simp [skipLine]
    | cons d others =>
        rw [start] at exported
        exact Nat.lt_of_lt_of_le (skip_line_shorter d others) exported
  · rename_i name suffix found
    have shorter := name_shorter _ _ _ found
    have afterGap := skip_gap_length suffix
    split
    · rename_i value start
      rw [start, List.length_cons] at afterGap
      have trimmed := skip_gap_length value
      split
      · rename_i content after read
        have kept := value_length _ _ _ _ read
        have closed := finish_length name (some content) after
        omega
      · have dropped := skip_line_length (skipGap value)
        dsimp only
        omega
    · have closed := finish_length name none (skipGap suffix)
      omega

def bindings (content : List Char) : List Binding :=
  match _start : content.dropWhile Text.isSpace with
  | [] => []
  | c :: rest =>
      let step := binding (c :: rest)
      step.1.toList ++ bindings step.2
termination_by content.length
decreasing_by
  have kept := (List.dropWhile_suffix (l := content) Text.isSpace).length_le
  rw [_start] at kept
  exact Nat.lt_of_lt_of_le (binding_shorter c rest) kept

end ObjectStore.SettingsFile
