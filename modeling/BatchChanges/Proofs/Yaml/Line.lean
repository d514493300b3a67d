import BatchChanges.Proofs.Yaml.Phrase

/-! # Lines of block mappings

A line has a key, a colon and perhaps a value, and may end with a comment; between lines there may
be blank ones and comments. What such lines are split into depends on nothing but their columns,
keys and values: a line that stands deeper than the one before it opens a mapping, and one that does
not ends the mappings that are deeper than it.
-/

namespace BatchChanges.Yaml

/-- Blanks and perhaps a comment, up to the end of a line. -/
structure Margin where
  blanks : Nat := 0
  comment : Option (List Char) := none

namespace Margin

def chars (margin : Margin) : List Char :=
  List.replicate margin.blanks ' ' ++ margin.comment.elim [] ('#' :: ·)

def isProper (margin : Margin) : Bool := margin.comment.all (·.all isInline)

/-- Whether a margin may follow what else is on its line: no comment touches it. -/
def isApart (margin : Margin) : Bool := margin.comment.isNone || decide (0 < margin.blanks)

end Margin

/-- A line with an entry of a mapping, and the lines without content after it. -/
structure Line where
  column : Nat := 0
  key : Phrase
  /-- The value, and how many blanks there are in front of it besides the first one. -/
  value : Option (Nat × Phrase) := none
  margin : Margin := {}
  others : List Margin := []

namespace Line

/-- The line from its key on, up to its last character that counts. -/
def content (line : Line) : List Char :=
  line.key.chars ++ ':' ::
    line.value.elim [] fun value => ' ' :: (List.replicate value.1 ' ' ++ value.2.chars)

def pause (line : Line) : List Char :=
  line.margin.chars ++ line.others.flatMap fun margin => '\n' :: margin.chars

def isProper (line : Line) : Bool :=
  line.key.isKey && line.value.all (·.2.isProper) && line.margin.isProper && line.margin.isApart &&
    line.others.all Margin.isProper

def lead : List Line → List Char
  | [] => []
  | line :: _ => '\n' :: List.replicate line.column ' '

def chars : List Line → List Char
  | [] => []
  | line :: rest => line.content ++ (line.pause ++ (lead rest ++ chars rest))

/-- Whether a line may follow another one: it does not go on with a value that is written there. -/
def Precedes (line next : Line) : Prop := line.value.isSome = true → next.column ≤ line.column

/-- Whether a mapping starts in a column, given those of the mappings that go on. -/
def opens (columns : List Nat) (column : Nat) : Bool := columns.head?.all (· < column)

def columnsAfter (columns : List Nat) (column : Nat) : List Nat :=
  let left := columns.dropWhile (column < ·)
  if opens left column then column :: left else left

def marks (columns : List Nat) (column : Nat) : List Token :=
  (columns.takeWhile (column < ·)).map (fun _ => .blockEnd) ++
    if opens (columns.dropWhile (column < ·)) column then [.blockMappingStart] else []

def entryTokens (line : Line) : List Token :=
  .key :: line.key.token :: .value :: line.value.elim [] fun value => [value.2.token]

/-- The tokens of lines, where mappings are open in some columns. -/
def tokens (columns : List Nat) : List Line → List Token
  | [] => columns.map fun _ => .blockEnd
  | line :: rest =>
    marks columns line.column ++
      (line.entryTokens ++ tokens (columnsAfter columns line.column) rest)

end Line

namespace Lexer

/-- The way to the next token depends on the text, wherever it is taken from. -/
theorem skipGap_rest (flow allowed comment : Bool) (cursor : Cursor) (other chars : List Char) :
    skipGap flow allowed comment { cursor with rest := other } chars =
      skipGap flow allowed comment cursor chars := by
  rw [skipGap.eq_def, skipGap.eq_def flow allowed comment cursor]
  rfl

theorem skipGap_blanks (allowed : Bool) (count : Nat) (cursor : Cursor) (rest : List Char) :
    skipGap false allowed false cursor (List.replicate count ' ' ++ rest) =
      skipGap false allowed false (cursor.past (List.replicate count ' ') rest) rest := by
  induction count generalizing cursor with
  | zero => exact (skipGap_rest false allowed false cursor rest rest).symm
  | succ count ih =>
    rw [List.replicate_succ, List.cons_append, skipGap_blank, ih, Cursor.past_onward]

private theorem skipGap_mark (allowed : Bool) (cursor : Cursor) (rest : List Char) :
    skipGap false allowed false cursor ('#' :: rest) =
      skipGap false allowed true (cursor.onward '#' rest) rest := by
  rw [skipGap]
  simp [isBreak]

private theorem skipGap_comment {text : List Char} (line : ∀ c ∈ text, isBreak c = false)
    (allowed : Bool) (cursor : Cursor) (rest : List Char) :
    skipGap false allowed true cursor (text ++ rest) =
      skipGap false allowed true (cursor.past text rest) rest := by
  induction text generalizing cursor with
  | nil => exact (skipGap_rest false allowed true cursor rest rest).symm
  | cons c text ih =>
    obtain ⟨here, line⟩ := List.forall_mem_cons.mp line
    rw [List.cons_append, skipGap, if_neg (by simp [here]), if_pos rfl, ih line, Cursor.past_onward]

variable {margin : Margin} {others : List Margin}

/-- A margin is skipped, and what it may hold of a comment. -/
theorem skipGap_margin (proper : margin.isProper = true) (allowed : Bool) (cursor : Cursor)
    (rest : List Char) : ∃ comment, skipGap false allowed false cursor (margin.chars ++ rest) =
      skipGap false allowed comment (cursor.past margin.chars rest) rest := by
  obtain ⟨blanks, comment⟩ := margin
  cases comment with
  | none =>
    refine ⟨false, ?_⟩
    simpa [Margin.chars] using skipGap_blanks allowed blanks cursor rest
  | some text =>
    refine ⟨true, ?_⟩
    have line : ∀ c ∈ text, isBreak c = false := fun c member =>
      isBreak_of_isInline (List.all_eq_true.mp proper c member)
    rw [Margin.chars, List.append_assoc, skipGap_blanks, Option.elim_some, List.cons_append,
      skipGap_mark, skipGap_comment line, Cursor.past_onward, Cursor.past_past]

/-- Lines without content after it are skipped, too. -/
theorem skipGap_others (proper : margin.isProper = true)
    (others_proper : ∀ other ∈ others, other.isProper = true) (allowed : Bool) (cursor : Cursor)
    (rest : List Char) : ∃ next after comment,
      skipGap false allowed false cursor
          (margin.chars ++ (others.flatMap (fun margin => '\n' :: margin.chars) ++ rest)) =
        skipGap false after comment next rest := by
  induction others generalizing margin allowed cursor with
  | nil =>
    obtain ⟨comment, skips⟩ := skipGap_margin proper allowed cursor rest
    exact ⟨_, allowed, comment, skips⟩
  | cons other others ih =>
    obtain ⟨here, others_proper⟩ := List.forall_mem_cons.mp others_proper
    obtain ⟨comment, skips⟩ := skipGap_margin proper allowed cursor
      ('\n' :: (other.chars ++ (others.flatMap (fun margin => '\n' :: margin.chars) ++ rest)))
    obtain ⟨next, after, last, skipped⟩ := ih here others_proper true (Cursor.nextLine _ '\n' _)
    refine ⟨next, after, last, ?_⟩
    rw [List.flatMap_cons, List.cons_append, List.cons_append, List.append_assoc, skips,
      skipGap_feed]
    exact skipped

private theorem skipGap_margins_feed (proper : margin.isProper = true)
    (others_proper : ∀ other ∈ others, other.isProper = true) (allowed : Bool) (cursor : Cursor)
    (rest : List Char) : ∃ next, next.column = 0 ∧
      skipGap false allowed false cursor
          (margin.chars ++ (others.flatMap (fun margin => '\n' :: margin.chars) ++ '\n' :: rest)) =
        skipGap false true false next rest := by
  obtain ⟨next, after, comment, skips⟩ :=
    skipGap_others proper others_proper allowed cursor ('\n' :: rest)
  exact ⟨_, rfl, skips.trans (skipGap_feed after comment next rest)⟩

/-- Lines without content at the start of a text are skipped. -/
theorem skipGap_margins {margins : List Margin}
    (proper : ∀ margin ∈ margins, margin.isProper = true) (cursor : Cursor)
    (start : cursor.column = 0) (rest : List Char) : ∃ next, next.column = 0 ∧
      skipGap false true false cursor
          (margins.flatMap (fun margin => margin.chars ++ ['\n']) ++ rest) =
        skipGap false true false next rest := by
  cases margins with
  | nil => exact ⟨cursor, start, rfl⟩
  | cons margin others =>
    obtain ⟨here, proper⟩ := List.forall_mem_cons.mp proper
    have feeds (others : List Margin) :
        '\n' :: (others.flatMap (fun margin => margin.chars ++ ['\n']) ++ rest) =
          others.flatMap (fun margin => '\n' :: margin.chars) ++ '\n' :: rest := by
      induction others with
      | nil => rfl
      | cons other others ih =>
        simp only [List.flatMap_cons, List.append_assoc, List.cons_append, List.nil_append, ih]
    have skips := skipGap_margins_feed here proper true cursor rest
    rw [← feeds] at skips
    simpa only [List.flatMap_cons, List.append_assoc, List.cons_append, List.nil_append] using skips

/-- The way to the next token ends at the key of a line. -/
theorem skipGap_stop {c : Char} {rest : List Char} (nonblank : isBlank c = false)
    (line : isBreak c = false) (comment : c ≠ '#') (mark : c.toNat ≠ 0xfeff) (allowed : Bool)
    (cursor : Cursor) :
    skipGap false allowed false cursor (c :: rest) =
      ({ cursor with rest := c :: rest }, allowed) := by
  simp only [isBlank, Bool.or_eq_false_iff, beq_eq_false_iff_ne] at nonblank
  rw [skipGap]
  simp [line, comment, mark, nonblank]

end Lexer

variable {least column count : Nat} {opened : Bool} {margin : Margin} {others : List Margin}
  {rest : List Char}

private theorem pauses_blanks
    (pauses : Pauses least (opened || decide (0 < count)) (column + count) rest) :
    Pauses least opened column (List.replicate count ' ' ++ rest) := by
  induction count generalizing opened column with
  | zero => simpa using pauses
  | succ count ih =>
    rw [List.replicate_succ, List.cons_append, Pauses, if_neg (by decide), if_pos rfl]
    refine ih ?_
    rw [show column + 1 + count = column + (count + 1) by omega]
    simpa using pauses

private theorem pauses_feed (pauses : Pauses least true 0 rest) :
    Pauses least opened column ('\n' :: rest) := by
  rwa [Pauses, if_pos rfl]

/-- A scalar ends at a comment, and goes on to the next line without one. -/
theorem pauses_margin (apart : opened = true ∨ margin.isApart = true)
    (pauses : ∀ opened column, Pauses least opened column rest) :
    Pauses least opened column (margin.chars ++ rest) := by
  obtain ⟨blanks, comment⟩ := margin
  rw [Margin.chars, List.append_assoc]
  refine pauses_blanks ?_
  cases comment with
  | none => exact pauses _ _
  | some text =>
    rw [Option.elim_some, List.cons_append, Pauses, if_neg (by decide), if_neg (by decide)]
    refine ⟨?_, rfl, rfl, .inr rfl⟩
    rcases apart with before | blank
    · simp [before]
    · simpa [Margin.isApart] using Or.inr (by simpa [Margin.isApart] using blank)

/-- A scalar ends with the lines without content after it if the next line is not deep enough. -/
theorem pauses_margins (apart : opened = true ∨ margin.isApart = true)
    (pauses : ∀ opened column, Pauses least opened column rest) :
    Pauses least opened column
      (margin.chars ++ (others.flatMap (fun margin => '\n' :: margin.chars) ++ rest)) := by
  induction others generalizing margin opened column with
  | nil => exact pauses_margin apart pauses
  | cons other others ih =>
    refine pauses_margin apart fun opened column => ?_
    rw [List.flatMap_cons, List.cons_append, List.cons_append, List.append_assoc]
    exact pauses_feed (ih (.inl rfl))

private theorem blankNext_of_pauses (pauses : Pauses least false column rest) :
    blankNext rest = true := by
  cases rest with
  | nil => rfl
  | cons c rest =>
    rw [Pauses] at pauses
    split at pauses
    · next feed => simp [blankNext, feed, isBreak]
    · split at pauses
      · next blank => simp [blankNext, blank, isBlank]
      · cases pauses.1

namespace Line

variable {line : Line} {lines : List Line}

theorem isKey_of_isProper (proper : line.isProper = true) : line.key.isKey = true := by
  simp only [isProper, Bool.and_eq_true] at proper
  exact proper.1.1.1.1

theorem isProper_of_value {blanks : Nat} {phrase : Phrase} (proper : line.isProper = true)
    (value : line.value = some (blanks, phrase)) : phrase.isProper = true := by
  simp only [isProper, value, Option.all_some, Bool.and_eq_true] at proper
  exact proper.1.1.1.2

/-- A line starts with a character that is not skipped. -/
theorem exists_chars_eq_cons (proper : line.isProper = true) (rest : List Line) :
    ∃ c more, chars (line :: rest) = c :: more ∧ isBlank c = false ∧ isBreak c = false ∧ c ≠ '#' ∧
      c.toNat ≠ 0xfeff := by
  obtain ⟨c, more, same, facts⟩ :=
    Phrase.exists_chars_eq_cons (Phrase.isProper_of_isKey (isKey_of_isProper proper))
  rw [chars, content, same]
  exact ⟨c, _, rfl, facts⟩

/-- The value of a line ends before the next line, if that does not go on with it. -/
theorem pauses_pause (proper : line.isProper = true)
    (others_proper : ∀ next ∈ lines, next.isProper = true)
    (shallow : ∀ next ∈ lines.head?, next.column < least) :
    Pauses least false column (line.pause ++ (lead lines ++ chars lines)) := by
  simp only [isProper, Bool.and_eq_true] at proper
  rw [pause, List.append_assoc]
  refine pauses_margins (.inr proper.1.2) fun opened column => ?_
  cases lines with
  | nil => exact trivial
  | cons next rest =>
    obtain ⟨c, more, same, nonblank, here, -⟩ :=
      exists_chars_eq_cons (others_proper next List.mem_cons_self) rest
    have feed : c ≠ '\n' := by
      rintro rfl
      cases here
    have blank : c ≠ ' ' := by
      rintro rfl
      cases nonblank
    rw [lead, List.cons_append, same]
    refine pauses_feed (pauses_blanks ?_)
    rw [Pauses, if_neg feed, if_neg blank, Nat.zero_add]
    exact ⟨rfl, nonblank, here, .inl (shallow next rfl)⟩

/-- So does a value if the next line may follow it. -/
theorem pauses_of_precedes (proper : line.isProper = true)
    (others_proper : ∀ next ∈ lines, next.isProper = true)
    (follows : ∀ next ∈ lines.head?, line.Precedes next) (valued : line.value.isSome = true) :
    Pauses (line.column + 1) false column (line.pause ++ (lead lines ++ chars lines)) :=
  pauses_pause proper others_proper fun next head => Nat.lt_succ_of_le (follows next head valued)

/-- A line that ends with its colon gives no value on it. -/
theorem blankNext_pause (proper : line.isProper = true)
    (others_proper : ∀ next ∈ lines, next.isProper = true) :
    blankNext (line.pause ++ (lead lines ++ chars lines)) = true := by
  refine @blankNext_of_pauses ((lines.head?.map (·.column + 1)).getD 0) 0 _
    (pauses_pause proper others_proper fun next head => ?_)
  rw [Option.mem_def.mp head]
  exact Nat.lt_succ_self _

/-- From the end of a line the way to the next token leads to the next key, or to the end. -/
theorem skipGap_pause (proper : line.isProper = true)
    (others_proper : ∀ next ∈ lines, next.isProper = true) (allowed : Bool) (cursor : Cursor) :
    ∃ next after, Lexer.skipGap false allowed false cursor
        (line.pause ++ (lead lines ++ chars lines)) = (next, after) ∧
      next.rest = chars lines ∧
      ∀ line ∈ lines.head?, after = true ∧ next.column = line.column := by
  simp only [isProper, Bool.and_eq_true, List.all_eq_true] at proper
  obtain ⟨⟨⟨-, margin⟩, -⟩, others⟩ := proper
  rw [pause, List.append_assoc]
  cases lines with
  | nil =>
    obtain ⟨next, after, comment, skips⟩ := Lexer.skipGap_others margin others allowed cursor []
    exact ⟨{ next with rest := [] }, after, skips, rfl, by simp⟩
  | cons following rest =>
    obtain ⟨c, more, same, nonblank, here, comment, mark⟩ :=
      exists_chars_eq_cons (others_proper following List.mem_cons_self) rest
    obtain ⟨next, start, skips⟩ := Lexer.skipGap_margins_feed margin others allowed cursor
      (List.replicate following.column ' ' ++ chars (following :: rest))
    refine ⟨next.past (List.replicate following.column ' ') (chars (following :: rest)), true, ?_,
      rfl, ?_⟩
    · rw [lead, List.cons_append, skips, Lexer.skipGap_blanks, same,
        Lexer.skipGap_stop nonblank here comment mark]
      rfl
    · rintro _ ⟨⟩
      exact ⟨rfl, by simp [Cursor.past, start]⟩

end Line

end BatchChanges.Yaml
