/-!
Outlines of structured values, and their two layouts: a compact one on a single line, and an
indented one with a line for each item.
-/

namespace Inertial.Text

/-- The signs around the items of a group. In the compact layout the items of a spaced group stand
apart from the signs.
-/
structure Bracket where
  opening : Char
  closing : Char
  spaced : Bool
deriving DecidableEq

namespace Bracket

def round : Bracket := ⟨'(', ')', false⟩
def square : Bracket := ⟨'[', ']', false⟩
def curly : Bracket := ⟨'\x7b', '\x7d', false⟩
def spacedCurly : Bracket := ⟨'\x7b', '\x7d', true⟩

end Bracket

/-- A text as it stands, a value behind its key, or a group of items with a heading. -/
inductive Outline where
  | leaf (text : List Char)
  | entry (key : List Char) (value : Outline)
  | group (heading : List Char) (bracket : Bracket) (items : List Outline)

namespace Outline

def word (text : String) : Outline := leaf text.toList

def field (label : String) (value : Outline) : Outline := entry label.toList value

def record (name : String) (fields : List Outline) : Outline :=
  group (name.toList ++ [' ']) .spacedCurly fields

def tuple (name : String) (items : List Outline) : Outline := group name.toList .round items

def list (items : List Outline) : Outline := group [] .square items

def dictionary (entries : List Outline) : Outline := group [] .curly entries

/-- A value that may be absent. -/
def optional : Option Outline → Outline
  | none => word "None"
  | some value => tuple "Some" [value]

mutual

def compact : Outline → List Char
  | leaf text => text
  | entry key value => key ++ ':' :: ' ' :: compact value
  | group heading bracket items =>
      let space := if bracket.spaced then [' '] else []
      heading ++ bracket.opening :: space ++ compactItems items ++ space ++ [bracket.closing]

/-- The items with a comma and a space between them. -/
def compactItems : List Outline → List Char
  | [] => []
  | [last] => compact last
  | first :: second :: rest => compact first ++ ',' :: ' ' :: compactItems (second :: rest)

end

/-- Four spaces for each level. -/
def indentation (level : Nat) : List Char := List.replicate (4 * level) ' '

mutual

/-- The layout of an outline whose first line has already been indented to the level. -/
def indented (level : Nat) : Outline → List Char
  | leaf text => text
  | entry key value => key ++ ':' :: ' ' :: indented level value
  | group heading bracket [] => heading ++ [bracket.opening, bracket.closing]
  | group heading bracket (first :: rest) =>
      heading ++ bracket.opening :: '\n' :: indentedItems (level + 1) (first :: rest)
        ++ indentation level ++ [bracket.closing]

/-- Each item on lines of its own, with a comma after it. -/
def indentedItems (level : Nat) : List Outline → List Char
  | [] => []
  | first :: rest =>
      indentation level ++ indented level first ++ ',' :: '\n' :: indentedItems level rest

end

/-- The text of an outline, in the indented layout if it is to be pretty. -/
def render (pretty : Bool) (outline : Outline) : String :=
  String.ofList (if pretty then outline.indented 0 else outline.compact)

end Outline

end Inertial.Text
