import Inertial.Proofs.Text.Prefixes
import Inertial.Proofs.Text.WrittenDecimals

/-!
The grammar of JSON texts, and that it reads no text in two ways. A value keeps its words, numbers
and strings as they are written.
-/

namespace Inertial

inductive Json where
  | word (text : List Char)
  | number (text : List Char)
  | string (content : List Char)
  | array (items : List Json)
  | object (members : List (List Char × Json))

namespace Json

def words : List (List Char) := ["null".toList, "true".toList, "false".toList]

def null : Json := .word "null".toList

def isBlank (character : Char) : Bool := [' ', '\t', '\n', '\r'].contains character

def IsBlank (text : List Char) : Prop := ∀ character ∈ text, isBlank character = true

/-- At least one digit. -/
def IsDigits (digits : List Char) : Prop :=
  digits ≠ [] ∧ ∀ digit ∈ digits, digit.isDigit = true

/-- Digits behind a point, or nothing. -/
def IsFraction (text : List Char) : Prop :=
  text = [] ∨ ∃ digits, text = '.' :: digits ∧ IsDigits digits

/-- A power of ten behind a letter, perhaps with a sign, or nothing. -/
def IsExponent (text : List Char) : Prop :=
  text = []
  ∨ ∃ letter sign digits,
      text = letter :: sign ++ digits
      ∧ letter ∈ ['e', 'E']
      ∧ sign ∈ [[], ['+'], ['-']]
      ∧ IsDigits digits

/-- A whole number without superfluous zeros in front, perhaps with a minus sign, a fraction and an
exponent.
-/
def IsNumber (text : List Char) : Prop :=
  ∃ sign whole fraction exponent,
    text = sign ++ whole ++ fraction ++ exponent
    ∧ sign ∈ [[], ['-']]
    ∧ Decimal.IsWhole whole
    ∧ IsFraction fraction
    ∧ IsExponent exponent

def isHexDigit (character : Char) : Bool :=
  character.isDigit
  || 'a' ≤ character && character ≤ 'f'
  || 'A' ≤ character && character ≤ 'F'

/-- What may stand behind a backslash, apart from a number. -/
def isEscape (character : Char) : Bool :=
  ['"', '\\', '/', 'b', 'f', 'n', 'r', 't'].contains character

/-- One character of a string. A backslash is followed by one of eight characters, or by the letter
`u` and four hexadecimal digits.
-/
inductive IsUnit : List Char → Prop where
  | plain {character : Char}
      : ' ' ≤ character → character ≠ '"' → character ≠ '\\' → IsUnit [character]
  | escape {character : Char}
      : isEscape character = true → IsUnit ['\\', character]
  | hexadecimal {first second third fourth : Char}
      : (∀ digit ∈ [first, second, third, fourth], isHexDigit digit = true)
        → IsUnit ['\\', 'u', first, second, third, fourth]

/-- What may stand between quotation marks. -/
def IsContent (content : List Char) : Prop :=
  ∃ units : List (List Char), content = units.flatten ∧ ∀ unit ∈ units, IsUnit unit

/-- What stands between brackets: values with blanks around them, or members. -/
inductive Part where
  | element
  | member

/-- What the rules of the grammar are about: values, single parts of them, and several parts. -/
inductive Symbol where
  | value
  | one (part : Part)
  | several (part : Part)

abbrev Part.Meaning : Part → Type
  | element => Json
  | member => List Char × Json

/-- What is read from a text of the symbol. -/
abbrev Symbol.Meaning : Symbol → Type
  | value => Json
  | one part => part.Meaning
  | several part => List part.Meaning

inductive Derives : (symbol : Symbol) → symbol.Meaning → List Char → Prop where
  | word {text : List Char} : text ∈ words → Derives .value (.word text) text
  | number {text : List Char} : IsNumber text → Derives .value (.number text) text
  | string {content : List Char}
      : IsContent content → Derives .value (.string content) ('"' :: content ++ ['"'])
  | emptyArray {blank : List Char}
      : IsBlank blank → Derives .value (.array []) ('[' :: blank ++ [']'])
  | array {items : List Json} {text : List Char}
      : Derives (.several .element) items text
        → Derives .value (.array items) ('[' :: text ++ [']'])
  | emptyObject {blank : List Char}
      : IsBlank blank → Derives .value (.object []) ('\x7b' :: blank ++ ['\x7d'])
  | object {members : List (List Char × Json)} {text : List Char}
      : Derives (.several .member) members text
        → Derives .value (.object members) ('\x7b' :: text ++ ['\x7d'])
  | element {json : Json} {before text after : List Char}
      : IsBlank before → Derives .value json text → IsBlank after
        → Derives (.one .element) json (before ++ text ++ after)
  | member {key text : List Char} {json : Json} {before between : List Char}
      : IsBlank before → IsContent key → IsBlank between → Derives (.one .element) json text
        → Derives (.one .member) (key, json) (before ++ '"' :: key ++ '"' :: between ++ ':' :: text)
  | last {part : Part} {meaning : part.Meaning} {text : List Char}
      : Derives (.one part) meaning text → Derives (.several part) [meaning] text
  | next {part : Part} {meaning : part.Meaning} {meanings : List part.Meaning}
      {text rest : List Char}
      : Derives (.one part) meaning text → Derives (.several part) meanings rest
        → Derives (.several part) (meaning :: meanings) (text ++ ',' :: rest)

/-- A whole text is that of one value, perhaps with blanks around it. -/
def IsText (json : Json) (text : List Char) : Prop := Derives (.one .element) json text

/-- There need not be blanks around a value. -/
theorem isText_of_derives {json : Json} {text : List Char} (derives : Derives .value json text)
    : IsText json text := by
  have none : IsBlank [] := by simp [IsBlank]
  simpa [IsText] using Derives.element none derives none

/-- Nor are there any around a key. -/
theorem derives_member {key text : List Char} {json : Json} (isContent : IsContent key)
    (derives : Derives .value json text)
    : Derives (.one .member) (key, json) ('"' :: key ++ '"' :: ':' :: text) := by
  have none : IsBlank [] := by simp [IsBlank]
  simpa using Derives.member none isContent none (isText_of_derives derives)

/-- All of the characters stand for themselves. -/
def IsPlain (text : List Char) : Prop :=
  ∀ character ∈ text, ' ' ≤ character ∧ character ≠ '"' ∧ character ≠ '\\'

instance (text : List Char) : Decidable (IsPlain text) := List.decidableBAll _ text

theorem isContent_of_plain {text : List Char} (plain : IsPlain text) : IsContent text := by
  refine ⟨text.map ([·]), by simp [← List.flatMap_def], fun unit mapped => ?_⟩
  obtain ⟨character, member, rfl⟩ := List.mem_map.mp mapped
  obtain ⟨printable, notQuote, notBackslash⟩ := plain character member
  exact .plain printable notQuote notBackslash

/-- Parts with commas between them are several parts. -/
theorem derives_intercalate {part : Part} {first : part.Meaning} {start : List Char}
    {meanings : List part.Meaning} {texts : List (List Char)}
    (one : Derives (.one part) first start)
    (others : List.Forall₂ (Derives (.one part)) meanings texts)
    : Derives (.several part) (first :: meanings) ([','].intercalate (start :: texts)) := by
  induction others generalizing first start with
  | nil => simpa using one.last
  | cons other _ derives => simpa using one.next (derives other)

-----------------------------------------------------------------------------------------
-- No text is read in two ways
-----------------------------------------------------------------------------------------

/-- The characters that may follow behind a text of the symbol. -/
def Symbol.precedes : Symbol → Char → Bool
  | value, character => isBlank character || [',', ']', '\x7d'].contains character
  | one _, character => [',', ']', '\x7d'].contains character
  | several _, character => [']', '\x7d'].contains character

/-- The text ends here, or goes on with a character that may follow. -/
def Symbol.Follows (symbol : Symbol) (rest : List Char) : Prop :=
  ∀ character ∈ rest.head?, symbol.precedes character = true

/-- Behind a text of the symbol there is no doubt about what was read, and where it ended. -/
def Unique (symbol : Symbol) (meaning : symbol.Meaning) (text : List Char) : Prop :=
  ∀ {otherMeaning : symbol.Meaning} {otherText rest otherRest : List Char},
    Derives symbol otherMeaning otherText
    → symbol.Follows rest
    → symbol.Follows otherRest
    → text ++ rest = otherText ++ otherRest
    → meaning = otherMeaning ∧ text = otherText

/-- The characters that a value can start with. -/
def opens : Json → Char → Bool
  | .word _, character => ['n', 't', 'f'].contains character
  | .number _, character => character == '-' || character.isDigit
  | .string _, character => character == '"'
  | .array _, character => character == '['
  | .object _, character => character == '\x7b'

theorem exists_letter {text : List Char} (isWord : text ∈ words)
    : ∃ first rest, text = first :: rest ∧ ['n', 't', 'f'].contains first = true := by
  simp only [words, List.mem_cons, List.not_mem_nil, or_false] at isWord
  rcases isWord with rfl | rfl | rfl <;> exact ⟨_, _, rfl, rfl⟩

theorem IsNumber.exists_first {text : List Char} (isNumber : IsNumber text)
    : ∃ first rest, text = first :: rest ∧ (first == '-' || first.isDigit) = true := by
  obtain ⟨sign, whole, fraction, exponent, rfl, sign_mem, isWhole, _, _⟩ := isNumber
  obtain ⟨first, rest, rfl⟩ := List.exists_cons_of_ne_nil isWhole.nonempty
  have isDigit := isWhole.isDigit first List.mem_cons_self
  rcases List.mem_pair.mp sign_mem with rfl | rfl
  · exact ⟨first, _, rfl, by simp [isDigit]⟩
  · exact ⟨'-', _, rfl, rfl⟩

theorem exists_first {json : Json} {text : List Char} (derives : Derives .value json text)
    : ∃ first rest, text = first :: rest ∧ json.opens first = true := by
  cases derives with
  | word isWord => exact exists_letter isWord
  | number isNumber => exact isNumber.exists_first
  | _ => exact ⟨_, _, rfl, rfl⟩

/-- So the first character tells the kinds of values apart. -/
theorem opens_first {json : Json} {text rest otherRest : List Char} (first : Char)
    (derives : Derives .value json text) (same : first :: rest = text ++ otherRest)
    : json.opens first = true := by
  obtain ⟨start, more, rfl, opens⟩ := exists_first derives
  injection same with starts
  rwa [starts]

/-- Neither a blank nor a mark that may stand behind a value starts one. -/
theorem not_precedes_of_opens {json : Json} {character : Char}
    (opens : json.opens character = true)
    : Symbol.value.precedes character = false := by
  by_contra precedes
  simp only [Symbol.precedes, isBlank, List.contains_iff_mem, Bool.not_eq_false, Bool.or_eq_true,
    List.mem_cons, List.not_mem_nil, or_false] at precedes
  rcases precedes with (rfl | rfl | rfl | rfl) | rfl | rfl | rfl
  all_goals cases json <;> cases opens

/-- Blanks, and then a character that can neither be a blank nor stand behind a value. -/
theorem exists_start {symbol : Symbol} {meaning : symbol.Meaning} {text : List Char}
    (derives : Derives symbol meaning text)
    : ∃ before first rest,
        text = before ++ first :: rest
        ∧ IsBlank before
        ∧ Symbol.value.precedes first = false := by
  have none : IsBlank [] := by simp [IsBlank]
  induction derives with
  | element blank value _ _ =>
      obtain ⟨first, rest, rfl, opens⟩ := exists_first value
      exact ⟨_, first, _, by rw [List.append_assoc]; rfl, blank, not_precedes_of_opens opens⟩
  | last _ start => exact start
  | next _ _ start _ =>
      obtain ⟨before, first, rest, rfl, blank, apart⟩ := start
      exact ⟨before, first, _, by rw [List.append_assoc]; rfl, blank, apart⟩
  | member blank _ _ _ _ =>
      exact ⟨_, '"', _, by simp only [List.append_assoc]; rfl, blank, by decide⟩
  | word isWord =>
      obtain ⟨first, rest, rfl, opens⟩ := exists_first (.word isWord)
      exact ⟨[], first, rest, rfl, none, not_precedes_of_opens opens⟩
  | number isNumber =>
      obtain ⟨first, rest, rfl, opens⟩ := exists_first (.number isNumber)
      exact ⟨[], first, rest, rfl, none, not_precedes_of_opens opens⟩
  | _ => exact ⟨[], _, _, rfl, none, by decide⟩

/-- Nothing but blanks between brackets is not read as something between them. -/
theorem blank_ne {symbol : Symbol} {meaning : symbol.Meaning}
    {blank text rest otherRest : List Char} {bracket : Char} (isBlank : IsBlank blank)
    (derives : Derives symbol meaning text) (closes : [']', '\x7d'].contains bracket = true)
    : blank ++ bracket :: rest ≠ text ++ otherRest := by
  obtain ⟨before, first, more, rfl, isBefore, apart⟩ := exists_start derives
  intro same
  have stops : Json.isBlank bracket = false ∧ Symbol.value.precedes bracket = true := by
    rcases List.mem_pair.mp (List.contains_iff_mem.mp closes) with rfl | rfl <;> decide
  have stopsFirst : Json.isBlank first = false := (Bool.or_eq_false_iff.mp apart).1
  rw [List.append_assoc] at same
  have rests :=
    (Text.split_unique isBlank (Text.stops_cons.mpr stops.1) isBefore
      (Text.stops_cons.mpr stopsFirst) same).2
  injection rests with first_eq
  rw [← first_eq, stops.2] at apart
  cases apart

theorem IsUnit.unique {unit other rest otherRest : List Char} (isUnit : IsUnit unit)
    (isOther : IsUnit other) (same : unit ++ rest = other ++ otherRest)
    : unit = other := by
  cases isUnit with
  | plain _ _ apart =>
      cases isOther with
      | plain _ _ _ => rw [(List.cons.inj same).1]
      | _ => exact absurd (List.cons.inj same).1 apart
  | escape isEscape =>
      cases isOther with
      | plain _ _ apart => exact absurd (List.cons.inj same).1.symm apart
      | escape _ => rw [(List.cons.inj (List.cons.inj same).2).1]
      | hexadecimal _ =>
          rw [(List.cons.inj (List.cons.inj same).2).1] at isEscape
          cases isEscape
  | hexadecimal _ =>
      cases isOther with
      | plain _ _ apart => exact absurd (List.cons.inj same).1.symm apart
      | escape isEscape =>
          rw [← (List.cons.inj (List.cons.inj same).2).1] at isEscape
          cases isEscape
      | hexadecimal _ => exact (List.append_inj same rfl).1

theorem IsUnit.ne_quote {unit rest otherRest : List Char} (isUnit : IsUnit unit)
    : unit ++ rest ≠ '"' :: otherRest := by
  intro same
  cases isUnit with
  | plain _ apart _ => exact apart (List.cons.inj same).1
  | _ => cases (List.cons.inj same).1

/-- The first quotation mark that no backslash stands before ends a string. -/
theorem IsContent.unique {content other rest otherRest : List Char} (isContent : IsContent content)
    (isOther : IsContent other) (same : content ++ '"' :: rest = other ++ '"' :: otherRest)
    : content = other := by
  obtain ⟨units, rfl, areUnits⟩ := isContent
  obtain ⟨others, rfl, areOthers⟩ := isOther
  rw [(Text.flatten_unique IsUnit.unique IsUnit.ne_quote areUnits areOthers same).1]

/-- The characters of numbers. -/
def isNumeric (character : Char) : Bool :=
  character.isDigit || ['+', '-', '.', 'e', 'E'].contains character

theorem IsNumber.isNumeric {text : List Char} (isNumber : IsNumber text)
    : ∀ character ∈ text, isNumeric character = true := by
  have ofDigit {digits : List Char} (areDigits : ∀ digit ∈ digits, digit.isDigit = true)
      : ∀ digit ∈ digits, Json.isNumeric digit = true := by
    intro digit member
    rw [Json.isNumeric, areDigits digit member, Bool.true_or]
  obtain ⟨sign, whole, fraction, exponent, rfl, isSign, isWhole, isFraction, isExponent⟩ :=
    isNumber
  simp only [List.append_assoc, List.forall_mem_append]
  refine ⟨?_, ofDigit isWhole.isDigit, ?_, ?_⟩
  · rcases List.mem_pair.mp isSign with rfl | rfl
    · nofun
    · exact List.forall_mem_singleton.mpr rfl
  · rcases isFraction with rfl | ⟨digits, rfl, _, areDigits⟩
    · simp
    · exact List.forall_mem_cons.mpr ⟨by decide, ofDigit areDigits⟩
  · rcases isExponent with rfl | ⟨letter, sign, digits, rfl, isLetter, isSign, _, areDigits⟩
    · simp
    · refine List.forall_mem_cons.mpr ⟨?_, List.forall_mem_append.mpr ⟨?_, ofDigit areDigits⟩⟩
      · rcases List.mem_pair.mp isLetter with rfl | rfl <;> decide
      · simp only [List.mem_cons, List.not_mem_nil, or_false] at isSign
        rcases isSign with rfl | rfl | rfl
        · nofun
        · exact List.forall_mem_singleton.mpr rfl
        · exact List.forall_mem_singleton.mpr rfl

/-- What may stand behind a value is no part of a number. -/
theorem stops_isNumeric {rest : List Char} (follows : Symbol.value.Follows rest)
    : Text.Stops isNumeric rest := by
  intro character first
  have precedes := follows character first
  simp only [Symbol.precedes, isBlank, List.contains_iff_mem, Bool.or_eq_true, List.mem_cons,
    List.not_mem_nil, or_false] at precedes
  rcases precedes with (rfl | rfl | rfl | rfl) | rfl | rfl | rfl <;> rfl

theorem Symbol.follows_cons {symbol : Symbol} {character : Char} (rest : List Char)
    (precedes : symbol.precedes character = true)
    : symbol.Follows (character :: rest) := by
  simpa [Follows] using precedes

/-- The words differ in their first letters, and no other value starts with a letter. -/
theorem unique_word {text : List Char} (isWord : text ∈ words)
    : Unique .value (.word text) text := by
  intro otherMeaning otherText rest otherRest other _ _ same
  simp only [words, List.mem_cons, List.not_mem_nil, or_false] at isWord
  cases other with
  | word isOther =>
      simp only [words, List.mem_cons, List.not_mem_nil, or_false] at isOther
      rcases isWord with rfl | rfl | rfl <;> rcases isOther with rfl | rfl | rfl <;>
        first
        | exact ⟨rfl, rfl⟩
        | cases (List.cons.inj same).1
  | number isNumber =>
      rcases isWord with rfl | rfl | rfl <;> cases opens_first _ (.number isNumber) same
  | _ => rcases isWord with rfl | rfl | rfl <;> cases (List.cons.inj same).1

/-- A number goes on as far as its characters do. -/
theorem IsNumber.unique {text : List Char} (isNumber : IsNumber text)
    : Unique .value (.number text) text := by
  intro otherMeaning otherText rest otherRest other follows otherFollows same
  cases other with
  | word isWord =>
      simp only [words, List.mem_cons, List.not_mem_nil, or_false] at isWord
      rcases isWord with rfl | rfl | rfl <;> cases opens_first _ (.number isNumber) same.symm
  | number isOther =>
      obtain ⟨rfl, _⟩ :=
        Text.split_unique isNumber.isNumeric (stops_isNumeric follows) isOther.isNumeric
          (stops_isNumeric otherFollows) same
      exact ⟨rfl, rfl⟩
  | _ => cases opens_first _ (.number isNumber) same.symm

theorem IsContent.unique_string {content : List Char} (isContent : IsContent content)
    : Unique .value (.string content) ('"' :: content ++ ['"']) := by
  intro otherMeaning otherText rest otherRest other _ _ same
  have opens := opens_first '"' other same
  cases other with
  | string isOther =>
      obtain rfl := isContent.unique isOther (by simpa using same)
      exact ⟨rfl, rfl⟩
  | _ => cases opens

/-- Blanks between brackets are not members, so both texts have blanks. -/
theorem bracket_unique {blank otherBlank rest otherRest : List Char} {bracket : Char}
    (isBlank : IsBlank blank) (isOther : IsBlank otherBlank)
    (closes : [']', '\x7d'].contains bracket = true)
    (same : blank ++ bracket :: rest = otherBlank ++ bracket :: otherRest)
    : blank = otherBlank := by
  have stops : Json.isBlank bracket = false := by
    rcases List.mem_pair.mp (List.contains_iff_mem.mp closes) with rfl | rfl <;> decide
  exact
    (Text.split_unique isBlank (Text.stops_cons.mpr stops) isOther (Text.stops_cons.mpr stops)
      same).1

theorem unique_emptyArray {blank : List Char} (isBlank : IsBlank blank)
    : Unique .value (.array []) ('[' :: blank ++ [']']) := by
  intro otherMeaning otherText rest otherRest other _ _ same
  have opens := opens_first '[' other same
  cases other with
  | emptyArray isOther =>
      obtain rfl := bracket_unique isBlank isOther rfl (by simpa using same)
      exact ⟨rfl, rfl⟩
  | array others => exact absurd (by simpa using same) (blank_ne isBlank others rfl)
  | _ => cases opens

theorem Unique.array {items : List Json} {text : List Char}
    (derives : Derives (.several .element) items text)
    (unique : Unique (.several .element) items text)
    : Unique .value (.array items) ('[' :: text ++ [']']) := by
  intro otherMeaning otherText rest otherRest other _ _ same
  have opens := opens_first '[' other same
  cases other with
  | emptyArray isBlank =>
      exact absurd (by simpa using same.symm) (blank_ne isBlank derives rfl)
  | array others =>
      obtain ⟨rfl, rfl⟩ :=
        unique others (Symbol.follows_cons rest rfl) (Symbol.follows_cons otherRest rfl)
          (by simpa using same)
      exact ⟨rfl, rfl⟩
  | _ => cases opens

theorem unique_emptyObject {blank : List Char} (isBlank : IsBlank blank)
    : Unique .value (.object []) ('\x7b' :: blank ++ ['\x7d']) := by
  intro otherMeaning otherText rest otherRest other _ _ same
  have opens := opens_first '\x7b' other same
  cases other with
  | emptyObject isOther =>
      obtain rfl := bracket_unique isBlank isOther rfl (by simpa using same)
      exact ⟨rfl, rfl⟩
  | object others => exact absurd (by simpa using same) (blank_ne isBlank others rfl)
  | _ => cases opens

theorem Unique.object {members : List (List Char × Json)} {text : List Char}
    (derives : Derives (.several .member) members text)
    (unique : Unique (.several .member) members text)
    : Unique .value (.object members) ('\x7b' :: text ++ ['\x7d']) := by
  intro otherMeaning otherText rest otherRest other _ _ same
  have opens := opens_first '\x7b' other same
  cases other with
  | emptyObject isBlank =>
      exact absurd (by simpa using same.symm) (blank_ne isBlank derives rfl)
  | object others =>
      obtain ⟨rfl, rfl⟩ :=
        unique others (Symbol.follows_cons rest rfl) (Symbol.follows_cons otherRest rfl)
          (by simpa using same)
      exact ⟨rfl, rfl⟩
  | _ => cases opens

theorem stops_isBlank {rest : List Char} (follows : (Symbol.one .element).Follows rest)
    : Text.Stops isBlank rest := by
  intro character first
  have precedes := follows character first
  simp only [Symbol.precedes, List.contains_iff_mem, List.mem_cons, List.not_mem_nil, or_false]
    at precedes
  rcases precedes with rfl | rfl | rfl <;> rfl

theorem value_stops_isBlank {json : Json} {text : List Char} (derives : Derives .value json text)
    (rest : List Char)
    : Text.Stops isBlank (text ++ rest) := by
  obtain ⟨first, more, rfl, opens⟩ := exists_first derives
  exact Text.stops_cons.mpr (Bool.or_eq_false_iff.mp (not_precedes_of_opens opens)).1

/-- Blanks behind a value may follow it, and what may follow the blanks. -/
theorem follows_blank {after rest : List Char} (isAfter : IsBlank after)
    (follows : (Symbol.one .element).Follows rest)
    : Symbol.value.Follows (after ++ rest) := by
  cases after with
  | nil => exact fun character first => Bool.or_eq_true_iff.mpr (.inr (follows character first))
  | cons blank after =>
      have isBlank := isAfter blank List.mem_cons_self
      exact Symbol.follows_cons _ (Bool.or_eq_true_iff.mpr (.inl isBlank))

theorem Unique.element {json : Json} {before text after : List Char} (isBefore : IsBlank before)
    (derives : Derives .value json text) (isAfter : IsBlank after)
    (unique : Unique .value json text)
    : Unique (.one .element) json (before ++ text ++ after) := by
  intro otherMeaning otherText rest otherRest other follows otherFollows same
  cases other with
  | element isOtherBefore others isOtherAfter =>
      simp only [List.append_assoc] at same
      obtain ⟨rfl, values⟩ :=
        Text.split_unique isBefore (value_stops_isBlank derives _) isOtherBefore
          (value_stops_isBlank others _) same
      obtain ⟨rfl, rfl⟩ :=
        unique others (follows_blank isAfter follows) (follows_blank isOtherAfter otherFollows)
          values
      obtain ⟨rfl, _⟩ :=
        Text.split_unique isAfter (stops_isBlank follows) isOtherAfter
          (stops_isBlank otherFollows) (List.append_cancel_left values)
      exact ⟨rfl, rfl⟩

theorem Unique.member {key text : List Char} {json : Json} {before between : List Char}
    (isBefore : IsBlank before) (isContent : IsContent key) (isBetween : IsBlank between)
    (unique : Unique (.one .element) json text)
    : Unique (.one .member) (key, json)
        (before ++ '"' :: key ++ '"' :: between ++ ':' :: text) := by
  intro otherMeaning otherText rest otherRest other follows otherFollows same
  cases other with
  | member isOtherBefore isOtherContent isOtherBetween others =>
      simp only [List.append_assoc, List.cons_append] at same
      obtain ⟨rfl, keys⟩ :=
        Text.split_unique isBefore (Text.stops_cons.mpr rfl) isOtherBefore
          (Text.stops_cons.mpr rfl) same
      obtain rfl := isContent.unique isOtherContent (List.cons.inj keys).2
      obtain ⟨rfl, values⟩ :=
        Text.split_unique isBetween (Text.stops_cons.mpr rfl) isOtherBetween
          (Text.stops_cons.mpr rfl)
          (List.cons.inj (List.append_cancel_left (List.cons.inj keys).2)).2
      obtain ⟨rfl, rfl⟩ := unique others follows otherFollows (List.cons.inj values).2
      exact ⟨rfl, rfl⟩

/-- What ends several parts may also stand behind a single one. -/
theorem follows_of_several {part : Part} {rest : List Char}
    (follows : (Symbol.several part).Follows rest)
    : (Symbol.one part).Follows rest := by
  intro character first
  have closes : [']', '\x7d'].contains character = true := follows character first
  rcases List.mem_pair.mp (List.contains_iff_mem.mp closes) with rfl | rfl <;> rfl

section Several

variable {part : Part} {meaning : part.Meaning} {text : List Char}

/-- No comma follows behind the last part. -/
theorem Unique.last (unique : Unique (.one part) meaning text)
    : Unique (.several part) [meaning] text := by
  intro otherMeaning otherText rest otherRest other follows otherFollows same
  cases other with
  | last others =>
      obtain ⟨rfl, rfl⟩ :=
        unique others (follows_of_several follows) (follows_of_several otherFollows) same
      exact ⟨rfl, rfl⟩
  | next others _ =>
      rw [List.append_assoc] at same
      obtain ⟨rfl, rfl⟩ :=
        unique others (follows_of_several follows) (Symbol.follows_cons _ rfl) same
      have ends := List.append_cancel_left same
      cases follows ',' (by rw [ends]; rfl)

theorem Unique.next {meanings : List part.Meaning} {rest : List Char}
    (unique : Unique (.one part) meaning text) (uniqueRest : Unique (.several part) meanings rest)
    : Unique (.several part) (meaning :: meanings) (text ++ ',' :: rest) := by
  intro otherMeaning otherText further otherFurther other follows otherFollows same
  rw [List.append_assoc] at same
  cases other with
  | last others =>
      obtain ⟨rfl, rfl⟩ :=
        unique others (Symbol.follows_cons _ rfl) (follows_of_several otherFollows) same
      have ends := List.append_cancel_left same
      cases otherFollows ',' (by rw [← ends]; rfl)
  | next others otherParts =>
      rw [List.append_assoc] at same
      obtain ⟨rfl, rfl⟩ :=
        unique others (Symbol.follows_cons _ rfl) (Symbol.follows_cons _ rfl) same
      obtain ⟨rfl, rfl⟩ :=
        uniqueRest otherParts follows otherFollows (List.cons.inj (List.append_cancel_left same)).2
      exact ⟨rfl, rfl⟩

end Several

/-- By induction on the derivation: each rule has one first character, or one way to go on. -/
theorem Derives.unique {symbol : Symbol} {meaning : symbol.Meaning} {text : List Char}
    (derives : Derives symbol meaning text)
    : Unique symbol meaning text := by
  induction derives with
  | word isWord => exact unique_word isWord
  | number isNumber => exact isNumber.unique
  | string isContent => exact isContent.unique_string
  | emptyArray isBlank => exact unique_emptyArray isBlank
  | array items unique => exact unique.array items
  | emptyObject isBlank => exact unique_emptyObject isBlank
  | object members unique => exact unique.object members
  | element isBefore value isAfter unique => exact unique.element isBefore value isAfter
  | member isBefore isContent isBetween _ unique =>
      exact unique.member isBefore isContent isBetween
  | last _ unique => exact unique.last
  | next _ _ unique uniqueRest => exact unique.next uniqueRest

/-- A text that is read at all is read in one way. -/
theorem IsText.unique {json other : Json} {text : List Char} (isText : IsText json text)
    (isOther : IsText other text)
    : json = other := by
  have none : (Symbol.one .element).Follows [] := by simp [Symbol.Follows]
  exact (Derives.unique isText isOther none none rfl).1

end Json

end Inertial
