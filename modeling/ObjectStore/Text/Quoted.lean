import ObjectStore.Text.Printable

/-!
# Quoted text and bytes

A quoted text stands between two equal marks. The mark is the apostrophe unless the text holds an
apostrophe and no double quote. Backslashes, the mark itself, line ends and tabs are escaped, and
every unprintable character is written by its code in lower-case hexadecimal. Bytes are quoted by
the same rule, with the letter b in front, and every byte outside printable ASCII is written by
its code.
-/

namespace ObjectStore.Text

set_option autoImplicit false

def apostrophe : Char := '\x27'
def doubleQuote : Char := '\x22'
def backslash : Char := '\x5c'

def enclosingMark (content : List Char) : Char :=
  if content.contains apostrophe && !content.contains doubleQuote then doubleQuote
  else apostrophe

/-- The last `width` hexadecimal digits of a number, most significant first. -/
def hexDigits : Nat → Nat → List Char
  | 0, _ => []
  | width + 1, n => hexDigits width (n / 16) ++ [Nat.digitChar (n % 16)]

/-- The shortest of the three numeric escapes that has room for the code. -/
def numericEscape (code : Nat) : List Char :=
  if code < 0x100 then backslash :: 'x' :: hexDigits 2 code
  else if code < 0x10000 then backslash :: 'u' :: hexDigits 4 code
  else backslash :: 'U' :: hexDigits 8 code

/-- One character of a text enclosed in `mark`, where `shown` tells which characters may stand for
themselves. -/
def escape (mark : Char) (shown : Char → Bool) (c : Char) : List Char :=
  if c = mark ∨ c = backslash then [backslash, c]
  else if c = '\n' then [backslash, 'n']
  else if c = '\r' then [backslash, 'r']
  else if c = '\t' then [backslash, 't']
  else if shown c then [c]
  else numericEscape c.toNat

def enclose (shown : Char → Bool) (content : List Char) : List Char :=
  let mark := enclosingMark content
  mark :: content.flatMap (escape mark shown) ++ [mark]

def quote (text : String) : String :=
  String.ofList (enclose isPrintable text.toList)

def quoteBytes (bytes : List UInt8) : String :=
  String.ofList ('b' :: enclose (fun c => c.toNat < 0x7f && isPrintable c)
    (bytes.map fun byte => Char.ofNat byte.toNat))

end ObjectStore.Text
