import BatchChanges.Proofs.Yaml.Scalar

/-! # Scalars as tokens

Wherever a scalar is written on one line outside of brackets, one token is added for it. A scalar
before a colon is kept in mind as what may be a key; one after a colon ends where its line does, or
at the next line that is not blank, which makes no difference for what comes next.
-/

namespace BatchChanges.Yaml

/-- The ways to write a scalar on one line. -/
inductive Style where
  | plain
  | quoted (double : Bool)
deriving DecidableEq

/-- A scalar and the way it is written. -/
structure Phrase where
  style : Style
  text : List Char
deriving DecidableEq

namespace Phrase

def chars (phrase : Phrase) : List Char :=
  match phrase.style with
  | .plain => phrase.text
  | .quoted double =>
    quoteMark double :: (phrase.text.flatMap (quotedChar double) ++ [quoteMark double])

def node (phrase : Phrase) : Yaml :=
  match phrase.style with
  | .plain => .plain (String.ofList phrase.text)
  | .quoted _ => .quoted (String.ofList phrase.text)

def token (phrase : Phrase) : Token :=
  .scalar (phrase.style == .plain) (String.ofList phrase.text)

/-- Whether the scalar can be written like this: it is on one line, and without quotes nothing in it
has a meaning of its own. -/
def isProper (phrase : Phrase) : Bool :=
  phrase.text.all isInline && (phrase.style != .plain || isPlain phrase.text)

/-- Whether the scalar can be a key: it is not taken for a marker between documents, and not too
long for a key. -/
def isKey (phrase : Phrase) : Bool :=
  phrase.isProper && !(Cursor.start phrase.chars).atMarks '-' &&
    !(Cursor.start phrase.chars).atMarks '.' && decide (byteLength phrase.chars ≤ KeyStart.limit)

end Phrase

def Style.read? (least : Nat) (cursor : Cursor) : Style → Option Scalar
  | plain => plain? false least cursor
  | quoted double => quoted? double cursor

variable {phrase : Phrase} {least : Nat} {cursor : Cursor} {tail : List Char}

namespace Lexer

theorem skipGap_feed (allowed comment : Bool) (cursor : Cursor) (rest : List Char) :
    skipGap false allowed comment cursor ('\n' :: rest) =
      skipGap false true false (cursor.nextLine '\n' rest) rest := by
  rw [skipGap, if_pos (by decide), Bool.not_false, Bool.or_true]

theorem skipGap_blank (allowed : Bool) (cursor : Cursor) (rest : List Char) :
    skipGap false allowed false cursor (' ' :: rest) =
      skipGap false allowed false (cursor.onward ' ' rest) rest := by
  rw [skipGap, if_neg (by decide), if_neg (by decide), if_pos (.inl rfl)]

end Lexer

namespace Phrase

private theorem isPlain_of_isProper (proper : phrase.isProper = true)
    (plain : phrase.style = .plain) : isPlain phrase.text = true := by
  simpa [isProper, plain] using And.right (Bool.and_eq_true_iff.mp proper)

private theorem isBreak_of_isProper (proper : phrase.isProper = true) :
    ∀ c ∈ phrase.text, isBreak c = false := fun c member =>
  isBreak_of_isInline (List.all_eq_true.mp (Bool.and_eq_true_iff.mp proper).1 c member)

/-- Before a colon that starts a value a scalar is read as it is written. -/
theorem read?_colon (proper : phrase.isProper = true) (deep : least ≤ cursor.column + 1)
    (blank : blankNext tail = true) (here : cursor.rest = phrase.chars ++ ':' :: tail) :
    phrase.style.read? least cursor =
      some ⟨String.ofList phrase.text, cursor.past phrase.chars (':' :: tail), false⟩ := by
  obtain ⟨style, text⟩ := phrase
  cases style with
  | plain =>
    refine (plain?_run (isPlain_of_isProper proper rfl) deep here).trans ?_
    refine (plainRest?_colon blank rfl).trans ?_
    rw [List.reverse_reverse]
    rfl
  | quoted double =>
    refine quoted?_run (by simp [apostrophe]) (isBreak_of_isProper proper) (here.trans ?_)
    simp [chars]

end Phrase

/-- The text after a scalar holds blanks and line feeds up to its end, to a comment, or to a line
that is not indented by `least`; `opened` says that there was a blank or a line feed before it. -/
def Pauses (least : Nat) (opened : Bool) (column : Nat) : List Char → Prop
  | [] => True
  | c :: rest =>
    if c = '\n' then Pauses least true 0 rest
    else if c = ' ' then Pauses least true (column + 1) rest
    else opened = true ∧ isBlank c = false ∧ isBreak c = false ∧ (column < least ∨ c = '#')

/-- A plain scalar ends in a pause, and the way from there to the next token is the one from its
last character. -/
theorem plainRest?_pause {found : List Char} {chars : List Char} :
    ∀ {gap : Gap} {cursor : Cursor}, Pauses least (!gap.isEmpty) cursor.column chars →
      cursor.rest = chars →
      ∃ scalar, plainRest? false least found gap cursor chars = some scalar ∧
        scalar.text = String.ofList found.reverse ∧
        Lexer.skipGap false scalar.afterBreak false scalar.cursor scalar.cursor.rest =
          Lexer.skipGap false gap.hasBreak false cursor chars := by
  induction chars with
  | nil => exact fun _ _ => ⟨_, rfl, rfl, rfl⟩
  | cons c rest ih =>
    intro gap cursor pauses here
    rw [Pauses] at pauses
    by_cases feed : c = '\n'
    · subst feed
      have opened : (gap.addBreak '\n').isEmpty = false ∧ (gap.addBreak '\n').hasBreak = true := by
        cases gap <;> exact ⟨rfl, rfl⟩
      rw [if_pos rfl] at pauses
      obtain ⟨scalar, read, text, skips⟩ := @ih (gap.addBreak '\n') (cursor.nextLine '\n' rest)
        (by rw [opened.1]; exact pauses) rfl
      rw [plainRest?, if_pos (by decide), Lexer.skipGap_feed]
      exact ⟨scalar, read, text, by rw [skips, opened.2]⟩
    · rw [if_neg feed] at pauses
      by_cases blank : c = ' '
      · subst blank
        rw [if_pos rfl] at pauses
        have opened : (gap.addBlank ' ').isEmpty = false ∧
            (gap.addBlank ' ').hasBreak = gap.hasBreak := by
          cases gap <;> exact ⟨rfl, rfl⟩
        obtain ⟨scalar, read, text, skips⟩ := @ih (gap.addBlank ' ') (cursor.onward ' ' rest)
          (by rw [opened.1]; exact pauses) rfl
        rw [plainRest?, if_neg (by decide), if_pos (by decide), if_neg (by simp),
          Lexer.skipGap_blank]
        exact ⟨scalar, read, text, by rw [skips, opened.2]⟩
      · rw [if_neg blank] at pauses
        obtain ⟨opened, nonblank, line, stops⟩ := pauses
        have same : { cursor with rest := c :: rest } = cursor := by
          rw [← here]
        have ends : endsPlain false least gap cursor c rest = true := by
          rcases stops with shallow | comment <;>
            simp_all [endsPlain]
        refine ⟨⟨String.ofList found.reverse, cursor, gap.hasBreak⟩, ?_, rfl, ?_⟩
        · rw [plainRest?]
          simp [line, nonblank, same, ends]
        · rw [here]

/-- A scalar ends in a pause, and the way from there to the next token is the one from its last
character. -/
theorem Phrase.read?_pause (proper : phrase.isProper = true) (deep : least ≤ cursor.column + 1)
    (pauses : Pauses least false (cursor.column + phrase.chars.length) tail)
    (here : cursor.rest = phrase.chars ++ tail) :
    ∃ scalar, phrase.style.read? least cursor = some scalar ∧
      scalar.text = String.ofList phrase.text ∧
      Lexer.skipGap false (phrase.style == .plain && scalar.afterBreak) false scalar.cursor
          scalar.cursor.rest =
        Lexer.skipGap false false false (cursor.past phrase.chars tail) tail := by
  obtain ⟨style, text⟩ := phrase
  cases style with
  | plain =>
    obtain ⟨scalar, read, told, skips⟩ := @plainRest?_pause least text.reverse tail .empty
      (cursor.past text tail) pauses rfl
    rw [List.reverse_reverse] at told
    exact ⟨scalar, (plain?_run (isPlain_of_isProper proper rfl) deep here).trans read, told, skips⟩
  | quoted double =>
    have ends : tail.head? ≠ some apostrophe := by
      cases tail with
      | nil => simp
      | cons c rest =>
        rintro ⟨⟩
        simp [Pauses, apostrophe] at pauses
    have written : cursor.rest =
        quoteMark double :: (text.flatMap (quotedChar double) ++ quoteMark double :: tail) :=
      here.trans (by simp [chars])
    exact ⟨_, quoted?_run ends (isBreak_of_isProper proper) written, rfl, rfl⟩

/-- A plain scalar does not start with a character that has a meaning of its own. -/
theorem startsPlain_ne {c : Char} {rest : List Char}
    (starts : startsPlain false (c :: rest) = true) :
    ∀ mark ∈ ['#', '%', '[', ']', '{', '}', ',', '*', '&', '!', '|', '>', apostrophe, '"'],
      c ≠ mark := by
  rintro mark member rfl
  simp only [List.mem_cons, List.not_mem_nil, or_false] at member
  rcases member with rfl | rfl | rfl | rfl | rfl | rfl | rfl | rfl | rfl | rfl | rfl | rfl | rfl |
    rfl <;> cases starts

private theorem startsPlain_append {run : List Char} (plain : isPlain run = true)
    (tail : List Char) : startsPlain false (run ++ tail) = true := by
  cases run with
  | nil => cases plain
  | cons c rest =>
    simp only [isPlain, Bool.and_eq_true] at plain
    obtain ⟨⟨⟨starts, dash⟩, -⟩, -⟩ := plain
    cases rest with
    | nil =>
      by_cases mark : c = '-' ∨ c = '?' ∨ c = ':'
      · rcases mark with rfl | rfl | rfl
        · cases dash
        · cases starts
        · cases starts
      · simp only [not_or] at mark
        simpa [startsPlain, mark] using starts
    | cons d rest => exact starts

/-- A plain scalar is neither the dash of an item nor the question mark before a key nor a colon
after one. -/
theorem isPlain_alone {c : Char} {run : List Char} (plain : isPlain (c :: run) = true)
    (tail : List Char) :
    (c == '-' && blankNext (run ++ tail)) = false ∧ (c == '?' && blankNext (run ++ tail)) = false ∧
      (c == ':' && blankNext (run ++ tail)) = false := by
  have starts := startsPlain_append plain tail
  refine ⟨?_, ?_, (startsPlain_cons starts).2.2⟩
  · simp only [isPlain, Bool.and_eq_true, Bool.not_eq_true'] at plain
    obtain ⟨⟨⟨-, dash⟩, -⟩, -⟩ := plain
    cases run with
    | nil =>
      rw [blankNext, Bool.and_true] at dash
      rw [dash, Bool.false_and]
    | cons d run => exact dash
  · by_cases question : c = '?'
    · subst question
      simpa [startsPlain] using starts
    · simp [question]

namespace Phrase

/-- A scalar starts with a character that is not skipped. -/
theorem exists_chars_eq_cons (proper : phrase.isProper = true) :
    ∃ c rest, phrase.chars = c :: rest ∧ isBlank c = false ∧ isBreak c = false ∧ c ≠ '#' ∧
      c.toNat ≠ 0xfeff := by
  obtain ⟨style, text⟩ := phrase
  cases style with
  | plain =>
    have plain := isPlain_of_isProper proper rfl
    cases text with
    | nil => cases plain
    | cons c rest =>
      simp only [isPlain, Bool.and_eq_true, bne_iff_ne] at plain
      obtain ⟨⟨⟨starts, -⟩, mark⟩, -⟩ := plain
      obtain ⟨nonblank, line, -⟩ := startsPlain_cons starts
      exact ⟨c, rest, rfl, nonblank, line, startsPlain_ne starts '#' (by simp), mark⟩
  | quoted double => cases double <;> exact ⟨_, _, rfl, rfl, rfl, by decide, by decide⟩

theorem isProper_of_isKey (key : phrase.isKey = true) : phrase.isProper = true := by
  simp only [isKey, Bool.and_eq_true] at key
  exact key.1.1.1

/-- Characters before a colon are no marker if they are none by themselves. -/
theorem atMarks_of_colon {chars : List Char} {mark : Char} (other : mark ≠ ':')
    (none : (Cursor.start chars).atMarks mark = false) (here : cursor.rest = chars ++ ':' :: tail) :
    cursor.atMarks mark = false := by
  have colon : (':' == mark) = false := beq_eq_false_iff_ne.mpr (Ne.symm other)
  rw [Cursor.atMarks, here]
  match chars with
  | [] => cases tail with
    | nil => rfl
    | cons b rest => cases rest <;> simp [colon]
  | [a] => cases tail <;> simp [colon]
  | [a, b] => simp [colon]
  | [a, b, c] => simp [blankNext, isBlank, isBreak]
  | a :: b :: c :: d :: rest => exact none

theorem atMarks_of_isKey (key : phrase.isKey = true)
    (here : cursor.rest = phrase.chars ++ ':' :: tail) :
    cursor.atMarks '-' = false ∧ cursor.atMarks '.' = false := by
  simp only [isKey, Bool.and_eq_true, Bool.not_eq_true'] at key
  exact ⟨atMarks_of_colon (by decide) key.1.1.2 here, atMarks_of_colon (by decide) key.1.2 here⟩

end Phrase

namespace Lexer

variable {lexer : Lexer} {c : Char} {rest : List Char}

/-- Outside of brackets, and where no marker is, a scalar on one line is added as it is read. -/
theorem add?_phrase {key : Option KeyStart} (proper : phrase.isProper = true)
    (outside : lexer.outerKeys = [])
    (marks : lexer.cursor.column = 0 →
      lexer.cursor.atMarks '-' = false ∧ lexer.cursor.atMarks '.' = false)
    (here : lexer.cursor.rest = phrase.chars ++ tail) (first : phrase.chars ++ tail = c :: rest)
    (noted : lexer.noteKey? = some { lexer with key }) :
    lexer.add? c rest = (phrase.style.read? lexer.least lexer.cursor).map fun scalar =>
      ({ lexer with key : Lexer }.push (.scalar (phrase.style == .plain) scalar.text)
        scalar.cursor).allowKey (phrase.style == .plain && scalar.afterBreak) := by
  have flow : lexer.inFlow = false := by simp [inFlow, outside]
  have atStart (mark : Char) (member : mark = '-' ∨ mark = '.') :
      (lexer.cursor.column == 0 && lexer.cursor.atMarks mark) = false := by
    by_cases start : lexer.cursor.column = 0
    · rcases member with rfl | rfl
      · simp [(marks start).1]
      · simp [(marks start).2]
    · simp [start]
  have still : { lexer with key : Lexer }.inFlow = false := flow
  rw [first] at here
  obtain ⟨style, text⟩ := phrase
  cases style with
  | plain =>
    have plain := Phrase.isPlain_of_isProper proper rfl
    cases text with
    | nil => cases plain
    | cons d run =>
      obtain ⟨rfl, rfl⟩ : d = c ∧ run ++ tail = rest := List.cons.inj first
      obtain ⟨item, question, colon⟩ := isPlain_alone plain tail
      have starts : startsPlain false (d :: (run ++ tail)) = true := startsPlain_append plain tail
      have other := startsPlain_ne starts
      simp only [List.forall_mem_cons] at other
      have single : d.toNat ≠ 0x27 := mt toNat_eq_apostrophe.mp
        (startsPlain_ne starts apostrophe (by simp))
      rw [add?, atStart '-' (.inl rfl), atStart '.' (.inr rfl)]
      simp only [flow, other, single, item, question, colon, here, starts, addPlain?, noted,
        Bool.false_or, Bool.and_false, Bool.not_false, Bool.and_true, Bool.false_eq_true,
        beq_eq_false_iff_ne.mpr, ne_eq, not_false_eq_true, if_false, if_true]
      rw [Option.bind_eq_bind, Option.bind_some, still]
      exact Option.map_eq_bind.symm
  | quoted double =>
    obtain ⟨rfl, -⟩ : quoteMark double = c ∧ _ = rest := List.cons.inj first
    rw [add?, atStart '-' (.inl rfl), atStart '.' (.inr rfl)]
    cases double <;>
    · simp [flow, quoteMark, apostrophe, addQuoted?, noted, Style.read?, Option.map_eq_bind]
      rfl

end Lexer

end BatchChanges.Yaml
