import Inertial.Proofs.Text.Layouts

/-!
Which outlines can be read back from their texts: those whose leaves, keys and headings are quoted
or bare words, so that only the layout's own signs end them.
-/

namespace Inertial.Text

-----------------------------------------------------------------------------------------
-- Words and signs
-----------------------------------------------------------------------------------------

def openingSigns : List Char := ['(', '[', '\x7b']

/-- What ends an item, or stands before the next one. -/
def closingSigns : List Char := [',', ')', ']', '\x7d']

/-- The signs of the layouts, all of which end a bare word. -/
def signs : List Char := ':' :: openingSigns ++ closingSigns

/-- None of the characters is one of the others. -/
def Avoids (avoided characters : List Char) : Prop :=
  ∀ character ∈ characters, character ∉ avoided

instance (avoided characters : List Char) : Decidable (Avoids avoided characters) :=
  List.decidableBAll _ characters

/-- Characters among which are no signs and no quotation marks, and of which the last is no space.
-/
structure IsRun (characters : List Char) : Prop where
  unsigned : Avoids ('"' :: signs) characters
  last : characters.getLast? ≠ some ' '

/-- A run that does not start with a space either. -/
structure IsBare (word : List Char) : Prop extends IsRun word where
  first : word.head? ≠ some ' '

/-- Without spaces, there are none at the ends. -/
theorem isBare_of_plain {word : List Char} (plain : Avoids (' ' :: '"' :: signs) word)
    : IsBare word where
  unsigned character member unsigned :=
    plain character member (List.mem_cons_of_mem _ unsigned)
  last last := plain ' ' (List.mem_of_getLast? last) List.mem_cons_self
  first first := plain ' ' (List.mem_of_head? first) List.mem_cons_self

/-- Words stay bare with something between them. -/
theorem IsBare.join {left middle right : List Char} (isLeft : IsBare left)
    (leftNonempty : left ≠ []) (unsigned : Avoids ('"' :: signs) middle) (isRight : IsBare right)
    (rightNonempty : right ≠ [])
    : IsBare (left ++ (middle ++ right)) where
  unsigned := by
    simp only [Avoids, List.forall_mem_append]
    exact ⟨isLeft.unsigned, unsigned, isRight.unsigned⟩
  last := by
    have last := List.getLast?_eq_some_getLast rightNonempty
    rw [← List.append_assoc, List.getLast?_append, last, Option.some_or, ← last]
    exact isRight.last
  first := by
    obtain ⟨first, rest, rfl⟩ := List.exists_cons_of_ne_nil leftNonempty
    exact isLeft.first

/-- A text that ends where the next sign stands: quoted, or a word. -/
inductive IsToken : List Char → Prop where
  | bare {word : List Char} : IsBare word → IsToken word
  | quoted (content : String) : IsToken (quoted content)

/-- The first character, or the second one behind a space. -/
def sign? : List Char → Option Char
  | ' ' :: sign :: _ => some sign
  | sign :: _ => some sign
  | [] => none

/-- The text ends here, or goes on with one of these signs. -/
def Ahead (some : List Char) (rest : List Char) : Prop := ∀ sign ∈ sign? rest, sign ∈ some

theorem Ahead.mono {some more rest : List Char} (ahead : Ahead some rest) (subset : some ⊆ more)
    : Ahead more rest :=
  fun sign next => subset (ahead sign next)

/-- What ends an item ends a token. -/
theorem Ahead.of_closing {rest : List Char} (ahead : Ahead closingSigns rest) : Ahead signs rest :=
  ahead.mono (List.subset_append_right _ _)

theorem sign?_cons {character : Char} (apart : character ≠ ' ') (rest : List Char)
    : sign? (character :: rest) = some character := by
  unfold sign?
  split
  · next same => exact absurd (List.cons.inj same).1 apart
  · next same => rw [(List.cons.inj same).1]
  · next same => cases same

theorem IsRun.tail {first : Char} {rest : List Char} (isRun : IsRun (first :: rest))
    : IsRun rest := by
  refine ⟨fun character member => isRun.unsigned character (List.mem_cons_of_mem first member), ?_⟩
  cases rest with
  | nil => simp
  | cons second rest => simpa using isRun.last

/-- A run goes on with something that is no sign, also behind a first space. -/
theorem IsRun.not_ahead {first : Char} {characters : List Char}
    (isRun : IsRun (first :: characters)) (rest : List Char)
    : ¬ Ahead signs (first :: characters ++ rest) := by
  intro ahead
  have unsigned {character : Char} (member : character ∈ first :: characters)
      : character ∉ signs :=
    fun sign => isRun.unsigned character member (List.mem_cons_of_mem _ sign)
  by_cases space : first = ' '
  · subst space
    match characters, isRun with
    | [], isRun => exact isRun.last rfl
    | second :: more, _ => exact unsigned (by simp) (ahead second rfl)
  · exact unsigned List.mem_cons_self (ahead first (sign?_cons space _))

/-- Runs are told apart by where the next sign stands. -/
theorem IsRun.unique {characters other rest otherRest : List Char} (isRun : IsRun characters)
    (isOther : IsRun other) (ahead : Ahead signs rest) (otherAhead : Ahead signs otherRest)
    (same : characters ++ rest = other ++ otherRest)
    : characters = other ∧ rest = otherRest := by
  induction characters generalizing other with
  | nil =>
      cases other with
      | nil => exact ⟨rfl, same⟩
      | cons first other =>
          rw [List.nil_append] at same
          exact absurd (same ▸ ahead) (isOther.not_ahead otherRest)
  | cons first characters ih =>
      cases other with
      | nil =>
          rw [List.nil_append] at same
          exact absurd (same ▸ otherAhead) (isRun.not_ahead rest)
      | cons second other =>
          obtain ⟨rfl, tails⟩ := List.cons.inj same
          obtain ⟨rfl, rests⟩ := ih isRun.tail isOther.tail tails
          exact ⟨rfl, rests⟩

/-- No word starts with a quotation mark, and nothing that goes on with a sign does. -/
theorem IsRun.ne_quoted {characters rest otherRest : List Char} {content : String}
    (isRun : IsRun characters) (ahead : Ahead signs rest)
    : characters ++ rest ≠ quoted content ++ otherRest := by
  intro same
  cases characters with
  | nil =>
      have quote := ahead '"' (by rw [List.nil_append] at same; rw [same]; rfl)
      exact absurd quote (by decide)
  | cons first characters =>
      have quote := (List.cons.inj same).1
      exact isRun.unsigned first List.mem_cons_self (quote ▸ List.mem_cons_self)

theorem IsToken.unique {token other rest otherRest : List Char} (isToken : IsToken token)
    (isOther : IsToken other) (ahead : Ahead signs rest) (otherAhead : Ahead signs otherRest)
    (same : token ++ rest = other ++ otherRest)
    : token = other ∧ rest = otherRest := by
  cases isToken with
  | bare isBare =>
      cases isOther with
      | bare isOtherBare => exact isBare.unique isOtherBare.toIsRun ahead otherAhead same
      | quoted content => exact absurd same (isBare.ne_quoted ahead)
  | quoted content =>
      cases isOther with
      | bare isOtherBare => exact absurd same.symm (isOtherBare.ne_quoted otherAhead)
      | quoted otherContent =>
          obtain ⟨rfl, rests⟩ := quoted_unique same
          exact ⟨rfl, rests⟩

/-- A token starts with something that does not end an item. -/
theorem IsToken.exists_first {token : List Char} (isToken : IsToken token) (nonempty : token ≠ [])
    : ∃ first rest, token = first :: rest ∧ first ∉ ' ' :: closingSigns := by
  cases isToken with
  | bare isBare =>
      obtain ⟨first, rest, rfl⟩ := List.exists_cons_of_ne_nil nonempty
      refine ⟨first, rest, rfl, fun ends => ?_⟩
      rcases List.mem_cons.mp ends with rfl | sign
      · exact isBare.first rfl
      · exact isBare.unsigned first List.mem_cons_self
          (List.mem_cons_of_mem _ (List.mem_append_right _ sign))
  | quoted content => exact ⟨'"', _, rfl, by decide⟩

-----------------------------------------------------------------------------------------
-- Legible outlines
-----------------------------------------------------------------------------------------

def brackets : List Bracket := [.round, .square, .curly, .spacedCurly]

/-- A word before the opening sign, which is empty only if the sign follows it immediately. -/
structure IsHeading (heading : List Char) (bracket : Bracket) : Prop where
  known : bracket ∈ brackets
  word
    : ∃ word, heading = word ++ bracket.space ∧ IsBare word ∧ (bracket.spaced = true → word ≠ [])

inductive Legible : Outline → Prop where
  | leaf {text : List Char} : IsToken text → text ≠ [] → Legible (.leaf text)
  | entry {key : List Char} {value : Outline}
      : IsToken key → key ≠ [] → Legible value → Legible (.entry key value)
  | group {heading : List Char} {bracket : Bracket} {items : List Outline}
      : IsHeading heading bracket → (∀ item ∈ items, Legible item)
        → Legible (.group heading bracket items)

theorem cases_brackets {bracket : Bracket} (known : bracket ∈ brackets)
    : bracket = .round ∨ bracket = .square ∨ bracket = .curly ∨ bracket = .spacedCurly := by
  simpa [brackets] using known

/-- The opening sign, and whether a space stands before it, tell the brackets apart. -/
theorem brackets_unique {bracket other : Bracket} {rest otherRest : List Char}
    (known : bracket ∈ brackets) (otherKnown : other ∈ brackets)
    (same : bracket.space ++ bracket.opening :: rest = other.space ++ other.opening :: otherRest)
    : bracket = other ∧ rest = otherRest := by
  rcases cases_brackets known with rfl | rfl | rfl | rfl <;>
    rcases cases_brackets otherKnown with rfl | rfl | rfl | rfl <;>
    first
    | exact ⟨rfl, (List.cons.inj same).2⟩
    | exact ⟨rfl, (List.cons.inj (List.cons.inj same).2).2⟩
    | cases (List.cons.inj same).1

theorem sign?_bracket {bracket : Bracket} (known : bracket ∈ brackets) (rest : List Char)
    : sign? (bracket.space ++ bracket.opening :: rest) = some bracket.opening
      ∧ bracket.opening ∈ openingSigns := by
  rcases cases_brackets known with rfl | rfl | rfl | rfl <;> exact ⟨rfl, by decide⟩

theorem ahead_colon (rest : List Char) : Ahead signs (':' :: rest) := by
  intro sign found
  cases found
  decide

theorem not_ahead_colon (rest : List Char) : ¬ Ahead closingSigns (':' :: rest) :=
  fun ahead => absurd (ahead ':' rfl) (by decide)

theorem not_ahead_bracket {bracket : Bracket} (known : bracket ∈ brackets) (rest : List Char)
    : ¬ Ahead closingSigns (bracket.space ++ bracket.opening :: rest) := by
  obtain ⟨next, opens⟩ := sign?_bracket known rest
  intro ahead
  have apart : Avoids closingSigns openingSigns := by decide
  exact apart _ opens (ahead _ next)

theorem colon_ne_bracket {bracket : Bracket} (known : bracket ∈ brackets)
    (rest otherRest : List Char)
    : ':' :: rest ≠ bracket.space ++ bracket.opening :: otherRest := by
  intro same
  rcases cases_brackets known with rfl | rfl | rfl | rfl <;> cases (List.cons.inj same).1

theorem ahead_bracket {bracket : Bracket} (known : bracket ∈ brackets) (rest : List Char)
    : Ahead signs (bracket.space ++ bracket.opening :: rest) := by
  obtain ⟨next, opens⟩ := sign?_bracket known rest
  intro sign found
  rw [next] at found
  cases found
  exact List.mem_append_left _ (List.mem_cons_of_mem _ opens)

namespace Layout

variable {layout : Layout}

/-- The items with what stands before the first of them, or what stands there if there are none. -/
def series (layout : Layout) (level : Nat) (bracket : Bracket) (nothing before : List Char)
    : List Outline → List Char
  | [] => nothing
  | first :: rest =>
      before ++ layout.text (level + 1) first ++ layout.further level bracket rest

/-- What stands behind the opening sign of a group, up to its closing sign. -/
def inside (layout : Layout) (level : Nat) (bracket : Bracket) : List Outline → List Char :=
  layout.series level bracket (layout.empty bracket) (layout.before bracket level)

theorem further_eq_series (layout : Layout) (level : Nat) (bracket : Bracket)
    (items : List Outline)
    : layout.further level bracket items
      = layout.series level bracket (layout.after bracket level) (layout.between level) items := by
  cases items <;> rfl

theorem text_group (layout : Layout) (level : Nat) (heading : List Char) (bracket : Bracket)
    (items : List Outline)
    : layout.text level (.group heading bracket items)
      = heading ++ bracket.opening :: layout.inside level bracket items := by
  cases items with
  | nil => rfl
  | cons first rest => simp [text, inside, series]

theorem entry_append (level : Nat) (key : List Char) (value : Outline) (rest : List Char)
    : layout.text level (.entry key value) ++ rest
      = key ++ ':' :: ' ' :: (layout.text level value ++ rest) := by
  simp [text]

theorem group_append (level : Nat) (word : List Char) (bracket : Bracket) (items : List Outline)
    (rest : List Char)
    : layout.text level (.group (word ++ bracket.space) bracket items) ++ rest
      = word
        ++ (bracket.space ++ bracket.opening :: (layout.inside level bracket items ++ rest)) := by
  simp [text_group]

/-- No legible text starts with what ends an item. -/
theorem exists_first (level : Nat) {outline : Outline} (legible : Legible outline)
    : ∃ first rest, layout.text level outline = first :: rest ∧ first ∉ ' ' :: closingSigns := by
  cases legible with
  | leaf isToken nonempty => exact isToken.exists_first nonempty
  | entry isToken nonempty _ =>
      obtain ⟨first, rest, rfl, apart⟩ := isToken.exists_first nonempty
      exact ⟨first, _, rfl, apart⟩
  | @group heading bracket items isHeading _ =>
      obtain ⟨known, word, rfl, isBare, spaced⟩ := isHeading
      rw [text_group]
      by_cases empty : word = []
      · rcases cases_brackets known with rfl | rfl | rfl | rfl
        · exact ⟨'(', _, by rw [empty]; rfl, by decide⟩
        · exact ⟨'[', _, by rw [empty]; rfl, by decide⟩
        · exact ⟨'\x7b', _, by rw [empty]; rfl, by decide⟩
        · exact absurd empty (spaced rfl)
      · obtain ⟨first, rest, rfl, apart⟩ := (IsToken.bare isBare).exists_first empty
        exact ⟨first, _, rfl, apart⟩

/-- What a layout puts around items does not hide where the items of a group end. -/
structure Lawful (layout : Layout) : Prop where
  empty_ne
    : ∀ {bracket : Bracket} {level : Nat} {first : Char} {text rest : List Char},
        bracket ∈ brackets → first ∉ ' ' :: closingSigns
        → layout.empty bracket ++ rest ≠ layout.before bracket level ++ first :: text
  after_ne
    : ∀ {bracket : Bracket} {level : Nat} {first : Char} {text rest : List Char},
        bracket ∈ brackets → first ∉ ' ' :: closingSigns
        → layout.after bracket level ++ rest ≠ layout.between level ++ first :: text
  ahead_between
    : ∀ (level : Nat) (rest : List Char), Ahead closingSigns (layout.between level ++ rest)
  ahead_after
    : ∀ {bracket : Bracket} (level : Nat) (rest : List Char),
        bracket ∈ brackets → Ahead closingSigns (layout.after bracket level ++ rest)

theorem compact_lawful : compact.Lawful where
  empty_ne := by
    intro bracket level first text rest known apart same
    rcases cases_brackets known with rfl | rfl | rfl | rfl
    · exact apart ((List.cons.inj same).1 ▸ by decide)
    · exact apart ((List.cons.inj same).1 ▸ by decide)
    · exact apart ((List.cons.inj same).1 ▸ by decide)
    · exact apart ((List.cons.inj (List.cons.inj same).2).1 ▸ by decide)
  after_ne := by
    intro bracket level first text rest known apart same
    rcases cases_brackets known with rfl | rfl | rfl | rfl <;> cases (List.cons.inj same).1
  ahead_between level rest sign next := by
    cases next
    decide
  ahead_after level rest known sign next := by
    rcases cases_brackets known with rfl | rfl | rfl | rfl <;>
      · cases next
        decide

theorem indented_lawful : indented.Lawful where
  empty_ne := by
    intro bracket level first text rest known apart same
    rcases cases_brackets known with rfl | rfl | rfl | rfl <;> cases (List.cons.inj same).1
  after_ne := by
    intro bracket level first text rest known apart same
    have deeper
        : Outline.indentation (level + 1)
          = Outline.indentation level ++ List.replicate 4 ' ' :=
      List.replicate_append_replicate.symm
    simp only [indented, deeper, List.cons_append, List.append_assoc] at same
    have lines := List.append_cancel_left (List.cons.inj (List.cons.inj same).2).2
    rcases cases_brackets known with rfl | rfl | rfl | rfl <;> cases (List.cons.inj lines).1
  ahead_between level rest sign next := by
    cases next
    decide
  ahead_after level rest known sign next := by
    cases next
    decide

-----------------------------------------------------------------------------------------
-- Reading back
-----------------------------------------------------------------------------------------

/-- The outline can be read off the start of a text, whatever legible outline wrote it. -/
def Readable (layout : Layout) (outline : Outline) : Prop :=
  ∀ {other : Outline} {level : Nat} {rest otherRest : List Char},
    Legible other
    → Ahead closingSigns rest
    → Ahead closingSigns otherRest
    → layout.text level outline ++ rest = layout.text level other ++ otherRest
    → outline = other ∧ rest = otherRest

/-- The sign behind the token in front tells a leaf, an entry and a group apart. -/
theorem readable_leaf {text : List Char} (isToken : IsToken text)
    : layout.Readable (.leaf text) := by
  intro other level rest otherRest otherLegible ahead otherAhead same
  cases otherLegible with
  | leaf isOther _ =>
      obtain ⟨rfl, rests⟩ := isToken.unique isOther ahead.of_closing otherAhead.of_closing same
      exact ⟨rfl, rests⟩
  | entry isOther _ _ =>
      rw [entry_append] at same
      obtain ⟨_, rests⟩ := isToken.unique isOther ahead.of_closing (ahead_colon _) same
      exact absurd (rests ▸ ahead) (not_ahead_colon _)
  | group isHeading _ =>
      obtain ⟨known, word, rfl, isBare, _⟩ := isHeading
      rw [group_append] at same
      obtain ⟨_, rests⟩ :=
        isToken.unique (.bare isBare) ahead.of_closing (ahead_bracket known _) same
      exact absurd (rests ▸ ahead) (not_ahead_bracket known _)

theorem readable_entry {key : List Char} {value : Outline} (isToken : IsToken key)
    (readable : layout.Readable value)
    : layout.Readable (.entry key value) := by
  intro other level rest otherRest otherLegible ahead otherAhead same
  rw [entry_append] at same
  cases otherLegible with
  | leaf isOther _ =>
      obtain ⟨_, rests⟩ := isToken.unique isOther (ahead_colon _) otherAhead.of_closing same
      exact absurd (rests ▸ otherAhead) (not_ahead_colon _)
  | entry isOther _ otherValue =>
      rw [entry_append] at same
      obtain ⟨rfl, tails⟩ := isToken.unique isOther (ahead_colon _) (ahead_colon _) same
      obtain ⟨rfl, rests⟩ :=
        readable otherValue ahead otherAhead (List.cons.inj (List.cons.inj tails).2).2
      exact ⟨rfl, rests⟩
  | group isHeading _ =>
      obtain ⟨known, word, rfl, isBare, _⟩ := isHeading
      rw [group_append] at same
      obtain ⟨_, tails⟩ :=
        isToken.unique (.bare isBare) (ahead_colon _) (ahead_bracket known _) same
      exact absurd tails (colon_ne_bracket known _ _)

variable (lawful : layout.Lawful)

include lawful

theorem Lawful.ahead_further {bracket : Bracket} (known : bracket ∈ brackets) (level : Nat)
    (items : List Outline) (rest : List Char)
    : Ahead closingSigns (layout.further level bracket items ++ rest) := by
  cases items with
  | nil => exact lawful.ahead_after level rest known
  | cons next items =>
      rw [further, List.append_assoc, List.append_assoc]
      exact lawful.ahead_between level _

/-- By induction on the items: either both lists end, or both go on with the same item. Only what
stands before the items differs between the first one and the others.
-/
theorem Lawful.series_unique {bracket : Bracket} (known : bracket ∈ brackets) {level : Nat}
    {nothing before : List Char}
    (apart
      : ∀ {first : Char} {text rest : List Char},
          first ∉ ' ' :: closingSigns → nothing ++ rest ≠ before ++ first :: text)
    {items others : List Outline} {rest otherRest : List Char}
    (legible : ∀ item ∈ items, Legible item) (readable : ∀ item ∈ items, layout.Readable item)
    (otherLegible : ∀ item ∈ others, Legible item)
    (same
      : layout.series level bracket nothing before items ++ rest
        = layout.series level bracket nothing before others ++ otherRest)
    : items = others ∧ rest = otherRest := by
  induction items generalizing others nothing before with
  | nil =>
      cases others with
      | nil => exact ⟨rfl, List.append_cancel_left same⟩
      | cons other others =>
          obtain ⟨first, more, starts, isFirst⟩ :=
            layout.exists_first (level + 1) (otherLegible other List.mem_cons_self)
          rw [series, series, List.append_assoc, List.append_assoc, starts] at same
          exact absurd same (apart isFirst)
  | cons item items ih =>
      obtain ⟨itemLegible, itemsLegible⟩ := List.forall_mem_cons.mp legible
      obtain ⟨itemReadable, itemsReadable⟩ := List.forall_mem_cons.mp readable
      cases others with
      | nil =>
          obtain ⟨first, more, starts, isFirst⟩ := layout.exists_first (level + 1) itemLegible
          rw [series, series, List.append_assoc, List.append_assoc, starts] at same
          exact absurd same.symm (apart isFirst)
      | cons other others =>
          obtain ⟨firstLegible, othersLegible⟩ := List.forall_mem_cons.mp otherLegible
          simp only [series, List.append_assoc, List.append_cancel_left_eq] at same
          obtain ⟨rfl, rests⟩ :=
            itemReadable firstLegible (lawful.ahead_further known level items rest)
              (lawful.ahead_further known level others otherRest) same
          rw [further_eq_series, further_eq_series] at rests
          obtain ⟨rfl, ends⟩ :=
            ih (lawful.after_ne known) itemsLegible itemsReadable othersLegible rests
          exact ⟨rfl, ends⟩

theorem Lawful.readable_group {heading : List Char} {bracket : Bracket} {items : List Outline}
    (isHeading : IsHeading heading bracket) (legible : ∀ item ∈ items, Legible item)
    (readable : ∀ item ∈ items, layout.Readable item)
    : layout.Readable (.group heading bracket items) := by
  intro other level rest otherRest otherLegible ahead otherAhead same
  obtain ⟨known, word, rfl, isBare, _⟩ := isHeading
  rw [group_append] at same
  cases otherLegible with
  | leaf isOther _ =>
      obtain ⟨_, rests⟩ :=
        (IsToken.bare isBare).unique isOther (ahead_bracket known _) otherAhead.of_closing same
      exact absurd (rests ▸ otherAhead) (not_ahead_bracket known _)
  | entry isOther _ _ =>
      rw [entry_append] at same
      obtain ⟨_, tails⟩ :=
        (IsToken.bare isBare).unique isOther (ahead_bracket known _) (ahead_colon _) same
      exact absurd tails.symm (colon_ne_bracket known _ _)
  | group isOtherHeading otherItems =>
      obtain ⟨otherKnown, otherWord, rfl, isOtherBare, _⟩ := isOtherHeading
      rw [group_append] at same
      obtain ⟨rfl, tails⟩ :=
        isBare.toIsRun.unique isOtherBare.toIsRun (ahead_bracket known _)
          (ahead_bracket otherKnown _) same
      obtain ⟨rfl, insides⟩ := brackets_unique known otherKnown tails
      obtain ⟨rfl, rests⟩ :=
        lawful.series_unique known (lawful.empty_ne known) legible readable otherItems insides
      exact ⟨rfl, rests⟩

/-- By induction on the outline, of which the text of every part can be read back. -/
theorem Lawful.readable {outline : Outline} (legible : Legible outline)
    : layout.Readable outline := by
  induction legible with
  | leaf isToken _ => exact readable_leaf isToken
  | entry isToken _ _ readable => exact readable_entry isToken readable
  | group isHeading legible readable => exact lawful.readable_group isHeading legible readable

end Layout

/-- Legible outlines with the same text, in either layout, are the same outline. -/
theorem Legible.render_injective {outline other : Outline} (legible : Legible outline)
    (otherLegible : Legible other) (pretty : Bool)
    (same : outline.render pretty = other.render pretty)
    : outline = other := by
  have none : Ahead closingSigns [] := by
    intro sign found
    cases found
  have texts := congrArg (· ++ []) (String.ofList_injective same)
  cases pretty with
  | false =>
      simp only [Bool.false_eq_true, if_false, ← Layout.compact_text _ 0] at texts
      exact (Layout.compact_lawful.readable legible otherLegible none none texts).1
  | true =>
      simp only [if_true, ← Layout.indented_text] at texts
      exact (Layout.indented_lawful.readable legible otherLegible none none texts).1

end Inertial.Text
