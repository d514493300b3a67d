import BatchChanges.Proofs.Yaml.Line
import Mathlib.Data.List.Chain
import Mathlib.Data.List.TakeWhile
import Mathlib.Data.Option.Basic

/-! # The tokens of lines

Three steps lead over a line: its key is kept in mind, the colon makes a key of it and starts a
mapping if none is open in its column, and the value is added. Each step is followed by the way to
the next token, so that a line is taken from the place of its key to that of the next one. The
tokens of all lines follow by induction along the lines.
-/

namespace BatchChanges.Yaml

namespace Lexer

variable {lexer : Lexer} {cursor : Cursor} {fuel : Nat} {allowed : Bool} {c : Char}
  {rest : List Char}

/-- Ending block collections ends those that are deeper, and adds a mark for each. -/
theorem closeBlocks_eq (outside : lexer.outerKeys = []) (test : Nat → Bool) :
    lexer.closeBlocks test = { lexer with
      columns := lexer.columns.dropWhile test
      tokens := lexer.tokens ++ (lexer.columns.takeWhile test).map fun _ => Token.blockEnd } := by
  simp [closeBlocks, inFlow, outside]

/-- Nothing ends where the innermost block collection is not deeper. -/
theorem closeBlocks_of_least {column : Nat} (deep : lexer.least ≤ column + 1) :
    lexer.closeBlocks (column < ·) = lexer := by
  obtain ⟨cursor, tokens, columns, keyAllowed, key, outerKeys⟩ := lexer
  cases columns with
  | nil => simp [closeBlocks]
  | cons first others =>
    have kept : ¬ column < first := by
      simp only [least] at deep
      omega
    simp [closeBlocks, kept]

/-- The way to the next token, on which a key may be given up. -/
theorem dropPastKeys?_toToken {key : Option KeyStart}
    (skips : skipGap false lexer.keyAllowed false lexer.cursor lexer.cursor.rest =
      (cursor, allowed))
    (outside : lexer.outerKeys = []) (keeps : KeyStart.keep? cursor lexer.key = some key) :
    lexer.toToken.dropPastKeys? = some { lexer with cursor, keyAllowed := allowed, key } := by
  have flow : lexer.inFlow = false := by simp [inFlow, outside]
  have there : lexer.toToken = { lexer with cursor, keyAllowed := allowed } := by
    rw [toToken, flow, skips]
  rw [there]
  simp [dropPastKeys?, keeps, outside]

/-- A step goes to the next token, ends what is deeper, and adds the token. -/
theorem run?_succ {key : Option KeyStart}
    (skips : skipGap false lexer.keyAllowed false lexer.cursor lexer.cursor.rest =
      (cursor, allowed))
    (outside : lexer.outerKeys = []) (keeps : KeyStart.keep? cursor lexer.key = some key)
    (here : cursor.rest = c :: rest) :
    run? (fuel + 1) lexer =
      (({ lexer with cursor, keyAllowed := allowed, key }.closeBlocks (cursor.column < ·)).add? c
        rest).bind (run? fuel) := by
  have same : ({ lexer with cursor, keyAllowed := allowed, key : Lexer }.closeBlocks
      (cursor.column < ·)).cursor.rest = c :: rest := by
    rw [closeBlocks_eq (by exact outside)]
    exact here
  rw [run?, dropPastKeys?_toToken skips outside keeps]
  simp only [Option.bind_eq_bind, Option.bind_some, same]

private theorem run?_nil
    (skips : skipGap false lexer.keyAllowed false lexer.cursor lexer.cursor.rest =
      (cursor, allowed))
    (outside : lexer.outerKeys = []) (free : lexer.key = none) (here : cursor.rest = []) :
    run? (fuel + 1) lexer =
      some (lexer.tokens.toList ++ lexer.columns.map fun _ => Token.blockEnd) := by
  have keeps : KeyStart.keep? cursor lexer.key = some none := by
    rw [free]
    rfl
  rw [run?, dropPastKeys?_toToken skips outside keeps]
  simp only [Option.bind_eq_bind, Option.bind_some]
  rw [closeBlocks_eq (by exact outside)]
  simp only [here]
  rw [closeAll, closeBlocks_eq (by exact outside)]
  simp only [dropKey?, Option.any_none, Bool.false_eq_true, if_false, Option.bind_some,
    Option.pure_def, Array.toList_appendList, List.append_assoc, ← List.map_append]
  rw [List.takeWhile_eq_self_iff.mpr fun _ _ => rfl, List.takeWhile_append_dropWhile]

private theorem toList_insertIdxIfInBounds {tokens : Array Token} {front back : List Token}
    (token : Token) (same : tokens.toList = front ++ back) :
    (tokens.insertIdxIfInBounds front.length token).toList = front ++ token :: back := by
  have within : front.length ≤ tokens.size := by
    rw [← Array.length_toList, same, List.length_append]
    exact Nat.le_add_right _ _
  rw [Array.insertIdxIfInBounds, dif_pos within, Array.toList_insertIdx, same]
  clear same within
  induction front with
  | nil => rfl
  | cons first front ih => simp [ih]

private theorem noteKey?_of_keyAllowed (allows : lexer.keyAllowed = true) (free : lexer.key = none)
    (outside : lexer.outerKeys = []) :
    lexer.noteKey? = some { lexer with key := some ⟨lexer.tokens.size, lexer.cursor,
      lexer.columns.head? == some lexer.cursor.column⟩ } := by
  simp [noteKey?, dropKey?, inFlow, allows, free, outside]

/-- A block collection starts in a column unless one is open there or deeper. -/
theorem openBlock_eq (outside : lexer.outerKeys = []) (column place : Nat) (start : Token) :
    lexer.openBlock column place start =
      if Line.opens lexer.columns column then
        { lexer with
          columns := column :: lexer.columns
          tokens := lexer.tokens.insertIdxIfInBounds place start }
      else lexer := by
  have deep : decide (lexer.least ≤ column) = Line.opens lexer.columns column := by
    rw [least, Line.opens]
    cases lexer.columns with
    | nil => exact decide_eq_true (Nat.zero_le _)
    | cons first others => exact decide_eq_decide.mpr Nat.succ_le_iff
  rw [openBlock, deep]
  simp [inFlow, outside]

/-- A colon makes a key of what is kept in mind, and starts a mapping if none is open in its
column. -/
theorem addValue?_of_key {start : KeyStart} {front : List Token} {token : Token}
    (outside : lexer.outerKeys = []) (kept : lexer.key = some start)
    (here : start.place = front.length) (same : lexer.tokens.toList = front ++ [token]) :
    ∃ tokens : Array Token, lexer.addValue? = some { lexer with
        cursor := lexer.cursor.next
        tokens
        columns := if Line.opens lexer.columns start.cursor.column
          then start.cursor.column :: lexer.columns else lexer.columns
        keyAllowed := false
        key := none } ∧
      tokens.toList = front ++
        ((if Line.opens lexer.columns start.cursor.column then [.blockMappingStart] else []) ++
          [.key, token, .value]) := by
  have keyed := toList_insertIdxIfInBounds .key same
  have started := toList_insertIdxIfInBounds .blockMappingStart keyed
  rw [addValue?, kept]
  simp only []
  rw [openBlock_eq (by exact outside), here]
  split
  · exact ⟨_, rfl, by simp [push, started]⟩
  · exact ⟨_, rfl, by simp [push, keyed]⟩

private theorem add?_key {phrase : Phrase} {tail : List Char} (key : phrase.isKey = true)
    (blank : blankNext tail = true) (outside : lexer.outerKeys = []) (free : lexer.key = none)
    (allows : lexer.keyAllowed = true) (deep : lexer.least ≤ lexer.cursor.column + 1)
    (here : lexer.cursor.rest = phrase.chars ++ ':' :: tail)
    (first : phrase.chars ++ ':' :: tail = c :: rest) :
    lexer.add? c rest = some { lexer with
      cursor := lexer.cursor.past phrase.chars (':' :: tail)
      tokens := lexer.tokens.push phrase.token
      keyAllowed := false
      key := some ⟨lexer.tokens.size, lexer.cursor,
        lexer.columns.head? == some lexer.cursor.column⟩ } := by
  have proper := Phrase.isProper_of_isKey key
  rw [add?_phrase proper outside (fun _ => Phrase.atMarks_of_isKey key here) here first
    (noteKey?_of_keyAllowed allows free outside), Phrase.read?_colon proper deep blank here]
  simp [push, allowKey, Phrase.token]

private theorem run?_colon {start : KeyStart} {front : List Token} {token : Token}
    {tail : List Char} (blank : blankNext tail = true) (outside : lexer.outerKeys = [])
    (kept : lexer.key = some start)
    (inside : start.cursor.column < lexer.cursor.column)
    (line : start.cursor.line = lexer.cursor.line)
    (short : lexer.cursor.offset ≤ start.cursor.offset + KeyStart.limit)
    (deep : lexer.least ≤ lexer.cursor.column + 1) (forbids : lexer.keyAllowed = false)
    (here : lexer.cursor.rest = ':' :: tail) (place : start.place = front.length)
    (same : lexer.tokens.toList = front ++ [token]) :
    ∃ tokens : Array Token, run? (fuel + 1) lexer = run? fuel { lexer with
        cursor := lexer.cursor.past [':'] tail
        tokens
        columns := if Line.opens lexer.columns start.cursor.column
          then start.cursor.column :: lexer.columns else lexer.columns
        key := none } ∧
      tokens.toList = front ++
        ((if Line.opens lexer.columns start.cursor.column then [.blockMappingStart] else []) ++
          [.key, token, .value]) := by
  have skips : skipGap false lexer.keyAllowed false lexer.cursor lexer.cursor.rest =
      (lexer.cursor, false) := by
    rw [here, forbids, skipGap_stop (by rfl) (by rfl) (by decide) (by decide), ← here]
  have keeps : KeyStart.keep? lexer.cursor lexer.key = some (some start) := by
    rw [kept, KeyStart.keep?, KeyStart.isPast, line, if_neg]
    simp [Nat.not_lt.mpr short]
  obtain ⟨tokens, added, told⟩ := addValue?_of_key outside kept place same
  refine ⟨tokens, ?_, told⟩
  have colon : lexer.add? ':' tail = lexer.addValue? := by
    have middle : (lexer.cursor.column == 0) = false := beq_eq_false_iff_ne.mpr (by omega)
    simp [add?, middle, blank]
  have all : ({ lexer with cursor := lexer.cursor, keyAllowed := false, key := some start : Lexer })
      = lexer := by
    rw [← forbids, ← kept]
  rw [run?_succ skips outside keeps here, all, closeBlocks_of_least deep, colon, added,
    Option.bind_some]
  have next : lexer.cursor.next = lexer.cursor.past [':'] tail := by
    rw [Cursor.next, here]
    rfl
  rw [next, ← forbids]

/-- After the deeper block collections have ended none is deeper. -/
theorem least_of_dropWhile {column : Nat} {columns : List Nat}
    (same : lexer.columns = columns.dropWhile (column < ·)) : lexer.least ≤ column + 1 := by
  rw [least, same]
  cases left : columns.dropWhile (column < ·) with
  | nil => exact Nat.zero_le _
  | cons first others =>
    have shallow := List.head_dropWhile_not (column < ·) (by rw [left]; exact List.cons_ne_nil _ _)
    simp only [left, List.head_cons, decide_eq_false_iff_not] at shallow
    exact Nat.succ_le_succ (Nat.le_of_not_lt shallow)

private theorem run?_key {phrase : Phrase} {tail : List Char} (key : phrase.isKey = true)
    (blank : blankNext tail = true) (outside : lexer.outerKeys = []) (free : lexer.key = none)
    (skips : skipGap false lexer.keyAllowed false lexer.cursor lexer.cursor.rest = (cursor, true))
    (here : cursor.rest = phrase.chars ++ ':' :: tail) :
    ∃ tokens : Array Token, run? (fuel + 2) lexer = run? fuel
        { cursor := cursor.past (phrase.chars ++ [':']) tail
          tokens
          columns := Line.columnsAfter lexer.columns cursor.column
          keyAllowed := false } ∧
      tokens.toList = lexer.tokens.toList ++
        (Line.marks lexer.columns cursor.column ++ [.key, phrase.token, .value]) := by
  have proper := Phrase.isProper_of_isKey key
  obtain ⟨c, rest, first, -⟩ := Phrase.exists_chars_eq_cons proper
  have there : phrase.chars ++ ':' :: tail = c :: (rest ++ ':' :: tail) := by
    rw [first, List.cons_append]
  have keeps : KeyStart.keep? cursor lexer.key = some none := by
    rw [free]
    rfl
  have bytes : byteLength phrase.chars ≤ KeyStart.limit := by
    simp only [Phrase.isKey, Bool.and_eq_true, decide_eq_true_eq] at key
    exact key.2
  let left := lexer.columns.dropWhile (cursor.column < ·)
  let before := lexer.tokens ++ (lexer.columns.takeWhile (cursor.column < ·)).map fun _ =>
    Token.blockEnd
  let next : Lexer :=
    { cursor := cursor.past phrase.chars (':' :: tail)
      tokens := before.push phrase.token
      columns := left
      keyAllowed := false
      key := some ⟨before.size, cursor, left.head? == some cursor.column⟩ }
  have keyed : run? (fuel + 2) lexer = run? (fuel + 1) next := by
    rw [run?_succ skips outside keeps (here.trans there), closeBlocks_eq (by exact outside),
      add?_key key blank (by exact outside) (by rfl) (by rfl) (by exact least_of_dropWhile rfl)
        (by exact here) there, Option.bind_some]
    simp only [outside]
    rfl
  have inside : cursor.column < next.cursor.column := by
    simp [next, Cursor.past, first]
  have deep : next.least ≤ next.cursor.column + 1 := by
    have shallow : next.least ≤ cursor.column + 1 := least_of_dropWhile rfl
    omega
  -- The place of the key is known by the tokens before it.
  obtain ⟨tokens, ran, told⟩ := @run?_colon next fuel ⟨before.size, cursor, _⟩ before.toList
    phrase.token tail blank rfl rfl inside rfl (Nat.add_le_add_left bytes _) deep rfl rfl
    Array.length_toList.symm Array.toList_push
  refine ⟨tokens, (keyed.trans ran).trans ?_, told.trans ?_⟩
  · simp only [next, Cursor.past_past, Line.columnsAfter]
    rfl
  · simp [next, before, left, Line.marks]

/-- One step leads over a value, and on the way to the next token nothing changes. -/
theorem run?_value {phrase : Phrase} {blanks : Nat} {tail : List Char}
    (proper : phrase.isProper = true) (outside : lexer.outerKeys = []) (free : lexer.key = none)
    (forbids : lexer.keyAllowed = false) (deep : lexer.least ≤ lexer.cursor.column)
    (pauses : ∀ column, Pauses lexer.least false column tail)
    (here : lexer.cursor.rest = ' ' :: (List.replicate blanks ' ' ++ (phrase.chars ++ tail))) :
    ∃ next allowed before, run? (fuel + 1) lexer = run? fuel { lexer with
        cursor := next, tokens := lexer.tokens.push phrase.token, keyAllowed := allowed } ∧
      skipGap false allowed false next next.rest = skipGap false false false before tail := by
  obtain ⟨c, rest, first, nonblank, line, comment, mark⟩ := Phrase.exists_chars_eq_cons proper
  have there : phrase.chars ++ tail = c :: (rest ++ tail) := by rw [first, List.cons_append]
  let start := lexer.cursor.past (List.replicate (blanks + 1) ' ') (phrase.chars ++ tail)
  have skips : skipGap false lexer.keyAllowed false lexer.cursor lexer.cursor.rest =
      (start, false) := by
    rw [here, forbids, ← List.cons_append, ← List.replicate_succ, skipGap_blanks, there,
      skipGap_stop nonblank line comment mark]
    simp only [start, there]
    rfl
  have keeps : KeyStart.keep? start lexer.key = some none := by
    rw [free]
    rfl
  have later : lexer.cursor.column < start.column := by
    simp [start, Cursor.past]
  let arrived : Lexer := { lexer with cursor := start, keyAllowed := false, key := none }
  have within : arrived.least ≤ start.column := Nat.le_of_lt (Nat.lt_of_le_of_lt deep later)
  obtain ⟨scalar, read, text, goes⟩ := @Phrase.read?_pause phrase arrived.least start tail proper
    (Nat.le_succ_of_le within) (pauses _) rfl
  refine ⟨scalar.cursor, phrase.style == .plain && scalar.afterBreak, start.past phrase.chars tail,
    ?_, goes⟩
  have noted : arrived.noteKey? = some { arrived with key := none } := by
    rw [noteKey?, if_neg (by simp [arrived])]
  have marks : arrived.cursor.column = 0 →
      arrived.cursor.atMarks '-' = false ∧ arrived.cursor.atMarks '.' = false := by
    intro zero
    exact absurd later (by rw [show start.column = 0 from zero]; exact Nat.not_lt_zero _)
  rw [run?_succ skips outside keeps there, closeBlocks_of_least (by exact Nat.le_succ_of_le within)]
  have added := add?_phrase proper (by exact outside) marks (by rfl) there noted
  rw [show arrived.cursor = start from rfl, read] at added
  refine (congrArg (·.bind (run? fuel)) added).trans ?_
  rw [Option.map_some, Option.bind_some, text, free]
  rfl

private theorem least_of_columnsAfter {columns : List Nat} {column : Nat}
    (same : lexer.columns = Line.columnsAfter columns column) : lexer.least = column + 1 := by
  rw [least, same, Line.columnsAfter]
  cases left : columns.dropWhile (column < ·) with
  | nil => rfl
  | cons first others =>
    have shallow := List.head_dropWhile_not (column < ·) (by rw [left]; exact List.cons_ne_nil _ _)
    simp only [left, List.head_cons, decide_eq_false_iff_not, Nat.not_lt] at shallow
    by_cases new : first < column
    · simp [Line.opens, new]
    · have level : first = column := by omega
      simp [Line.opens, level]

/-- The way to the next token leads to the key of the first of these lines, or to the end of the
text, and nothing is kept in mind. -/
structure Reaches (lexer : Lexer) (lines : List Line) : Prop where
  outside : lexer.outerKeys = []
  free : lexer.key = none
  way : ∃ cursor allowed,
    skipGap false lexer.keyAllowed false lexer.cursor lexer.cursor.rest = (cursor, allowed) ∧
      cursor.rest = Line.chars lines ∧
      ∀ line ∈ lines.head?, allowed = true ∧ cursor.column = line.column

variable {line : Line} {lines : List Line}

private theorem run?_line (proper : line.isProper = true)
    (others_proper : ∀ next ∈ lines, next.isProper = true)
    (follows : ∀ next ∈ lines.head?, line.Precedes next) (reaches : lexer.Reaches (line :: lines))
    (enough : (Line.chars (line :: lines)).length < fuel) :
    ∃ next left, run? fuel lexer = run? left next ∧ (Line.chars lines).length < left ∧
      next.Reaches lines ∧ next.columns = Line.columnsAfter lexer.columns line.column ∧
      next.tokens.toList =
        lexer.tokens.toList ++ (Line.marks lexer.columns line.column ++ line.entryTokens) := by
  obtain ⟨outside, free, cursor, allowed, skips, here, start⟩ := reaches
  obtain ⟨rfl, level⟩ := start line rfl
  have key := Line.isKey_of_isProper proper
  obtain ⟨c, more, first, -⟩ := Phrase.exists_chars_eq_cons (Phrase.isProper_of_isKey key)
  -- What follows the entry on its line, up to the next key or to the end of the text.
  let after := line.pause ++ (Line.lead lines ++ Line.chars lines)
  have onward := Line.skipGap_pause proper others_proper false
  rw [Line.chars] at enough here
  simp only [Line.content, List.append_assoc, List.cons_append, first, List.length_append,
    List.length_cons] at enough
  cases value : line.value with
  | none =>
    have content : line.content ++ after = line.key.chars ++ ':' :: after := by
      simp [Line.content, value]
    obtain ⟨fuel, rfl⟩ := Nat.exists_eq_add_of_le' (show 2 ≤ fuel by omega)
    obtain ⟨tokens, ran, told⟩ := @run?_key lexer cursor fuel line.key after key
      (Line.blankNext_pause proper others_proper) outside free skips (here.trans content)
    refine ⟨_, fuel, ran, by omega, ⟨rfl, rfl, onward _⟩, by rw [level], ?_⟩
    simp only [told, Line.entryTokens, value, level, Option.elim_none]
  | some written =>
    obtain ⟨blanks, phrase⟩ := written
    have valued : phrase.isProper = true := Line.isProper_of_value proper value
    let tail := ' ' :: (List.replicate blanks ' ' ++ (phrase.chars ++ after))
    have content : line.content ++ after = line.key.chars ++ ':' :: tail := by
      simp [Line.content, value, tail]
    obtain ⟨d, others, start_value, -⟩ := Phrase.exists_chars_eq_cons valued
    simp only [value, Option.elim_some, start_value, List.length_cons, List.length_append] at enough
    obtain ⟨fuel, rfl⟩ := Nat.exists_eq_add_of_le' (show 3 ≤ fuel by omega)
    obtain ⟨tokens, ran, told⟩ := @run?_key lexer cursor (fuel + 1) line.key tail key rfl outside
      free skips (here.trans content)
    let colon : Lexer :=
      { cursor := cursor.past (line.key.chars ++ [':']) tail
        tokens
        columns := Line.columnsAfter lexer.columns cursor.column
        keyAllowed := false }
    have least : colon.least = cursor.column + 1 := least_of_columnsAfter rfl
    have deep : colon.least ≤ colon.cursor.column := by
      rw [least]
      simp [colon, Cursor.past, first]
    have pauses (column : Nat) : Pauses colon.least false column after := by
      rw [least, level]
      exact Line.pauses_of_precedes proper others_proper follows (by rw [value]; rfl)
    obtain ⟨place, allowed, before, ran_value, goes⟩ := @run?_value colon fuel phrase blanks after
      valued rfl rfl rfl deep pauses rfl
    have way := onward before
    rw [← goes] at way
    refine ⟨_, fuel, ran.trans ran_value, by omega, ⟨rfl, rfl, way⟩, by rw [← level], ?_⟩
    simp only [colon, Array.toList_push, told, Line.entryTokens, value, level, Option.elim_some,
      List.append_assoc, List.cons_append, List.nil_append]

private theorem run?_lines (proper : ∀ line ∈ lines, line.isProper = true)
    (chain : lines.IsChain Line.Precedes) (reaches : lexer.Reaches lines)
    (enough : (Line.chars lines).length < fuel) :
    run? fuel lexer = some (lexer.tokens.toList ++ Line.tokens lexer.columns lines) := by
  induction lines generalizing fuel lexer with
  | nil =>
    obtain ⟨outside, free, cursor, allowed, skips, here, -⟩ := reaches
    obtain ⟨fuel, rfl⟩ := Nat.exists_eq_add_of_lt enough
    exact run?_nil skips outside free here
  | cons line lines ih =>
    obtain ⟨proper, others_proper⟩ := List.forall_mem_cons.mp proper
    obtain ⟨follows, chain⟩ := List.isChain_cons.mp chain
    obtain ⟨next, left, ran, enough, reaches, columns, told⟩ :=
      run?_line proper others_proper follows reaches enough
    rw [ran, ih others_proper chain reaches enough, told, columns, Line.tokens]
    simp only [List.append_assoc]

end Lexer

/-- Nothing that is allowed in a text is a line ending but a line feed. -/
theorem unifyLineEnds_of_isAllowed {chars : List Char} (allowed : ∀ c ∈ chars, isAllowed c = true) :
    unifyLineEnds chars = chars := by
  induction chars with
  | nil => rfl
  | cons c rest ih =>
    obtain ⟨here, allowed⟩ := List.forall_mem_cons.mp allowed
    have other : c ≠ '\r' ∧ c.toNat ≠ 0x85 := by
      constructor
      · rintro rfl
        cases here
      · intro same
        simp [isAllowed, same] at here
    rw [unifyLineEnds, if_neg other.2, ih allowed]
    · exact fun _ same => absurd same other.1
    · exact other.1

private theorem isAllowed_of_isInline {c : Char} (inline : isInline c = true) :
    isAllowed c = true :=
  (Bool.and_eq_true_iff.mp inline).1

private theorem isAllowed_blanks (count : Nat) :
    ∀ c ∈ List.replicate count ' ', isAllowed c = true := by
  intro c member
  rw [List.eq_of_mem_replicate member]
  rfl

private theorem Phrase.isAllowed_chars {phrase : Phrase} (proper : phrase.isProper = true) :
    ∀ c ∈ phrase.chars, isAllowed c = true := by
  obtain ⟨style, text⟩ := phrase
  have inline (c : Char) (member : c ∈ text) : isAllowed c = true :=
    isAllowed_of_isInline (List.all_eq_true.mp (Bool.and_eq_true_iff.mp proper).1 c member)
  cases style with
  | plain => exact inline
  | quoted double =>
    have marks : isAllowed (quoteMark double) = true := by cases double <;> rfl
    have written (c : Char) (member : c ∈ text) :
        ∀ d ∈ quotedChar double c, isAllowed d = true := by
      have here := inline c member
      unfold quotedChar
      split_ifs <;> simp [here, show isAllowed '\\' = true from rfl]
    simpa [chars, or_imp, forall_and, marks] using fun d c member => written c member d

private theorem Margin.isAllowed_chars {margin : Margin} (proper : margin.isProper = true) :
    ∀ c ∈ margin.chars, isAllowed c = true := by
  obtain ⟨blanks, comment⟩ := margin
  cases comment with
  | none => simpa [chars] using isAllowed_blanks blanks
  | some text =>
    have inline (c : Char) (member : c ∈ text) : isAllowed c = true :=
      isAllowed_of_isInline (List.all_eq_true.mp proper c member)
    simp only [chars, Option.elim_some, List.forall_mem_append, List.forall_mem_cons]
    exact ⟨isAllowed_blanks blanks, rfl, inline⟩

private theorem Line.isAllowed_pause {line : Line} (proper : line.isProper = true) :
    ∀ c ∈ line.pause, isAllowed c = true := by
  simp only [isProper, Bool.and_eq_true, List.all_eq_true] at proper
  obtain ⟨⟨⟨-, margin⟩, -⟩, others⟩ := proper
  simp only [pause, List.forall_mem_append, List.forall_mem_flatMap, List.forall_mem_cons]
  exact ⟨Margin.isAllowed_chars margin, fun other member =>
    ⟨rfl, Margin.isAllowed_chars (others other member)⟩⟩

private theorem Line.isAllowed_content {line : Line} (proper : line.isProper = true) :
    ∀ c ∈ line.content, isAllowed c = true := by
  simp only [content, List.forall_mem_append, List.forall_mem_cons]
  refine ⟨Phrase.isAllowed_chars (Phrase.isProper_of_isKey (isKey_of_isProper proper)), rfl, ?_⟩
  cases value : line.value with
  | none => exact List.forall_mem_nil _
  | some written =>
    simp only [Option.elim_some, List.forall_mem_append, List.forall_mem_cons]
    exact ⟨rfl, isAllowed_blanks _, Phrase.isAllowed_chars (isProper_of_value proper value)⟩

private theorem Line.isAllowed_chars {lines : List Line}
    (proper : ∀ line ∈ lines, line.isProper = true) : ∀ c ∈ chars lines, isAllowed c = true := by
  induction lines with
  | nil => exact List.forall_mem_nil _
  | cons line lines ih =>
    obtain ⟨proper, others_proper⟩ := List.forall_mem_cons.mp proper
    have lead : ∀ c ∈ lead lines, isAllowed c = true := by
      cases lines with
      | nil => exact List.forall_mem_nil _
      | cons next lines =>
        rw [lead, List.forall_mem_cons]
        exact ⟨rfl, isAllowed_blanks _⟩
    simp only [chars, List.forall_mem_append]
    exact ⟨isAllowed_content proper, isAllowed_pause proper, lead, ih others_proper⟩

/-- The tokens of a text with lines without content before its first key. -/
theorem tokens?_lines {source : String} {margins : List Margin} {lines : List Line}
    (margins_proper : ∀ margin ∈ margins, margin.isProper = true)
    (proper : ∀ line ∈ lines, line.isProper = true) (chain : lines.IsChain Line.Precedes)
    (start : ∀ line ∈ lines.head?, line.column = 0)
    (same : source.toList =
      margins.flatMap (fun margin => margin.chars ++ ['\n']) ++ Line.chars lines) :
    tokens? source = some (Line.tokens [] lines) := by
  have allowed : ∀ c ∈ source.toList, isAllowed c = true := by
    rw [same]
    simp only [List.forall_mem_append, List.forall_mem_flatMap, List.forall_mem_singleton]
    exact ⟨fun margin member => ⟨Margin.isAllowed_chars (margins_proper margin member), rfl⟩,
      Line.isAllowed_chars proper⟩
  obtain ⟨next, level, skips⟩ := Lexer.skipGap_margins margins_proper (.start source.toList) rfl
    (Line.chars lines)
  have reaches : ({ cursor := .start source.toList } : Lexer).Reaches lines := by
    refine ⟨rfl, rfl, { next with rest := Line.chars lines }, true, ?_, rfl, fun line head =>
      ⟨rfl, level.trans (start line head).symm⟩⟩
    refine (congrArg _ same).trans (skips.trans ?_)
    cases lines with
    | nil => rfl
    | cons line lines =>
      obtain ⟨c, more, chars, nonblank, here, comment, mark⟩ :=
        Line.exists_chars_eq_cons (proper line List.mem_cons_self) lines
      rw [chars, Lexer.skipGap_stop nonblank here comment mark]
  simp only [tokens?, unifyLineEnds_of_isAllowed allowed, List.all_eq_true.mpr allowed, guard_true]
  refine (Lexer.run?_lines proper chain reaches ?_).trans (by simp)
  rw [same, List.length_append]
  omega

end BatchChanges.Yaml
