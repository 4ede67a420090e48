import Inertial.Text.AttachedMark
import Inertial.Text.DefaultIgnorable
import Inertial.Text.Unprintable

/-!
Text in double quotes. Characters that would end the text, change its layout or not show at all
are written as escapes, so that the quoted form has no line breaks and a single reading.
-/

namespace Inertial.Text

/-- The code point in lower-case hexadecimal digits. -/
def codePointEscape (character : Char) : List Char :=
  ['\\', 'u', '\x7b'] ++ Nat.toDigits 16 character.toNat ++ ['\x7d']

/-- The character attaches to the quote or character before it, or does not show. -/
def isObscure (character : Char) : Bool :=
  attachedMark.contains character || defaultIgnorable.contains character
    || unprintable.contains character

/-- A character as it stands within double quotes; single quotes stand for themselves. -/
def escaped (character : Char) : List Char :=
  match character with
  | '\x00' => ['\\', '0']
  | '\t' => ['\\', 't']
  | '\n' => ['\\', 'n']
  | '\r' => ['\\', 'r']
  | '"' => ['\\', '"']
  | '\\' => ['\\', '\\']
  | _ => if isObscure character then codePointEscape character else [character]

def quoted (text : String) : List Char := '"' :: text.toList.flatMap escaped ++ ['"']

end Inertial.Text
