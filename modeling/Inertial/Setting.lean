import Inertial.Text.Blank
import Inertial.Text.Utf8

/-!
Settings taken from environment variables. Blanks around a value and the case of its ASCII letters
do not matter; a value that is missing or cannot be read leaves the default in place.
-/

namespace Inertial

namespace Setting

def dropBlanks (text : List Char) : List Char := text.dropWhile Text.blank.contains

/-- The text without blanks at either end. -/
def trimmed (text : List Char) : List Char := (dropBlanks (dropBlanks text).reverse).reverse

/-- Without blanks at either end, and with small ASCII letters for capital ones. -/
def normalized (text : List Char) : List Char := (trimmed text).map Char.toLower

def yesWords : List String := ["1", "true", "yes", "on"]

def noWords : List String := ["0", "false", "no", "off"]

/-- One of the words for yes or for no. -/
def flag? (text : String) : Option Bool :=
  let word := String.ofList (normalized text.toList)
  if yesWords.contains word then some true
  else if noWords.contains word then some false
  else none

/-- The number, if it fits into 64 bits. -/
def fit? (number : Nat) : Option UInt64 :=
  if number < UInt64.size then some (.ofNat number) else none

/-- The number with one more decimal digit behind it. Both the product and the sum have to fit. -/
def appendDigit? (number : UInt64) (digit : Char) : Option UInt64 := do
  let tens ← fit? (number.toNat * 10)
  if digit.isDigit then fit? (tens.toNat + (digit.toNat - '0'.toNat)) else none

/-- The value of a row of decimal digits, of which there is at least one. -/
def decimal? (digits : List Char) : Option UInt64 :=
  if digits.isEmpty then none else digits.foldlM appendDigit? 0

/-- Decimal digits, perhaps behind one plus sign. -/
def unsigned? : List Char → Option UInt64
  | '+' :: digits => decimal? digits
  | digits => decimal? digits

def count? (text : String) : Option UInt64 := unsigned? (trimmed text.toList)

/-- Any text that is not blank, in its normal form. -/
def word? (text : String) : Option String :=
  match normalized text.toList with
  | [] => none
  | characters => some (String.ofList characters)

end Setting

/-- Environment variables: the bytes of those that are set. -/
structure Environment where
  bytes? : String → Option (List UInt8)

namespace Environment

/-- No variable can have an empty name, or one with an equals sign or a zero character. -/
def isVariableName (name : String) : Bool :=
  !name.isEmpty && name.toList.all fun character => character != '=' && character != '\x00'

/-- The value of a variable that is set to well-formed text. -/
def text? (environment : Environment) (name : String) : Option String :=
  if isVariableName name then (environment.bytes? name).bind Text.decode? else none

def flag (environment : Environment) (name : String) (default : Bool) : Bool :=
  ((environment.text? name).bind Setting.flag?).getD default

def count (environment : Environment) (name : String) (default : UInt64) : UInt64 :=
  ((environment.text? name).bind Setting.count?).getD default

def word (environment : Environment) (name : String) (default : String) : String :=
  ((environment.text? name).bind Setting.word?).getD default

end Environment

end Inertial
