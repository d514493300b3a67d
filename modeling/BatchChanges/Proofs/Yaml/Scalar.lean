import BatchChanges.Yaml.Token
import Mathlib.Tactic.Common

/-! # Scalars on one line

A scalar can be written on one line as it is, or between quotes. Each of these ways is read back,
whatever follows that ends it: a plain scalar goes on until a colon with a blank after it, a comment
or a line that is not indented deeper than the mapping around it; a quoted one ends with its quote.
-/

namespace BatchChanges.Yaml

def byteLength : List Char → Nat
  | [] => 0
  | c :: rest => c.utf8Size + byteLength rest

@[simp] theorem byteLength_cons (c : Char) (rest : List Char) :
    byteLength (c :: rest) = c.utf8Size + byteLength rest := rfl

@[simp] theorem byteLength_append (first second : List Char) :
    byteLength (first ++ second) = byteLength first + byteLength second := by
  induction first with
  | nil => exact (Nat.zero_add _).symm
  | cons c first ih => rw [List.cons_append, byteLength_cons, byteLength_cons, ih, Nat.add_assoc]

def Cursor.past (cursor : Cursor) (run rest : List Char) : Cursor :=
  ⟨cursor.offset + byteLength run, cursor.line, cursor.column + run.length, rest⟩

namespace Cursor

private theorem past_nil {cursor : Cursor} {rest : List Char} (here : cursor.rest = rest) :
    cursor.past [] rest = cursor := by
  subst here
  rfl

@[simp] theorem past_onward (cursor : Cursor) (c : Char) (run rest between : List Char) :
    (cursor.onward c between).past run rest = cursor.past (c :: run) rest := by
  simp only [past, onward, byteLength_cons, List.length_cons, mk.injEq, true_and, and_true]
  omega

@[simp] theorem past_past (cursor : Cursor) (first second rest between : List Char) :
    (cursor.past first between).past second rest = cursor.past (first ++ second) rest := by
  simp only [past, byteLength_append, List.length_append, mk.injEq, true_and, and_true]
  omega

private theorem onward_onward (cursor : Cursor) (first second : Char) (rest between : List Char) :
    (cursor.onward first between).onward second rest = cursor.past [first, second] rest :=
  past_onward cursor first [second] rest between

/-- No marker between documents is in the middle of a line. -/
theorem atMarker_of_pos {cursor : Cursor} (inside : 0 < cursor.column) :
    cursor.atMarker = false := by
  simp [atMarker, Nat.ne_of_gt inside]

end Cursor

/-- A character that may stand on a line. -/
def isInline (c : Char) : Bool := isAllowed c && !isBreak c

private theorem isBreak_of_isBlank {c : Char} (blank : isBlank c = true) : isBreak c = false := by
  simp only [isBlank, Bool.or_eq_true, beq_iff_eq] at blank
  rcases blank with rfl | rfl <;> rfl

theorem isBreak_of_isInline {c : Char} (inline : isInline c = true) : isBreak c = false := by
  simp only [isInline, Bool.and_eq_true, Bool.not_eq_true'] at inline
  exact inline.2

/-- Whether a plain scalar goes on with these characters up to the last one. -/
def goesOn (afterBlank : Bool) : List Char → Bool
  | [] => !afterBlank
  | c :: rest =>
    if isBlank c then goesOn true rest
    else
      !isBreak c && !(afterBlank && c == '#') && !(c == ':' && blankNext rest) && goesOn false rest

def isPlain : List Char → Bool
  | [] => false
  | c :: rest =>
    startsPlain false (c :: rest) && !(c == '-' && blankNext rest) && c.toNat != 0xfeff &&
      goesOn false rest

variable {least : Nat} {cursor : Cursor}

/-- A colon that belongs to a plain scalar has a character of the scalar after it. -/
theorem not_colon_of_blankNext {c : Char} {rest : List Char}
    (goes : (c == ':' && blankNext rest) = false) (tail : List Char) :
    (c == ':' && blankNext (rest ++ tail)) = false := by
  cases rest with
  | nil =>
    rw [blankNext, Bool.and_true] at goes
    rw [goes, Bool.false_and]
  | cons d rest => exact goes

private theorem endsPlain_of_goesOn {blanks rest : List Char} {c : Char}
    (inside : 0 < cursor.column) (deep : least ≤ cursor.column)
    (comment : (!blanks.isEmpty && c == '#') = false)
    (colon : (c == ':' && blankNext rest) = false) :
    endsPlain false least (.blanks blanks) cursor c rest = false := by
  have empty : (Gap.blanks blanks).isEmpty = blanks.isEmpty := by cases blanks <;> rfl
  rw [endsPlain, colon, Cursor.atMarker_of_pos inside, decide_eq_false (Nat.not_lt.mpr deep), empty]
  simpa using comment

/-- Inside of its line a plain scalar is read as it is written. -/
theorem plainRest?_run {run tail : List Char} :
    ∀ {found blanks : List Char} {cursor : Cursor},
      goesOn (!blanks.isEmpty) run = true → 0 < cursor.column → least ≤ cursor.column →
      cursor.rest = run ++ tail →
      plainRest? false least found (.blanks blanks) cursor (run ++ tail) =
        plainRest? false least (run.reverse ++ (blanks ++ found)) .empty (cursor.past run tail)
          tail := by
  induction run with
  | nil =>
    intro found blanks cursor goes inside deep here
    cases blanks with
    | nil =>
      rw [List.nil_append] at here ⊢
      rw [Cursor.past_nil here]
      rfl
    | cons c blanks => cases goes
  | cons c run ih =>
    intro found blanks cursor goes inside deep here
    have further : least ≤ (cursor.onward c (run ++ tail)).column := Nat.le_succ_of_le deep
    rw [List.cons_append, plainRest?]
    rw [goesOn] at goes
    split at goes
    · next blank =>
      rw [if_neg (by simp [isBreak_of_isBlank blank]), if_pos blank,
        if_neg (by simp [Gap.hasBreak]), Gap.addBlank,
        ih (by simpa using goes) (Nat.succ_pos _) further rfl, Cursor.past_onward]
      simp
    · next nonblank =>
      simp only [Bool.and_eq_true, Bool.not_eq_true'] at goes
      obtain ⟨⟨⟨line, comment⟩, colon⟩, goes⟩ := goes
      have goesOn : endsPlain false least (.blanks blanks)
          { cursor with rest := c :: (run ++ tail) } c (run ++ tail) = false :=
        endsPlain_of_goesOn inside deep comment (not_colon_of_blankNext colon tail)
      rw [if_neg (by simp [line]), if_neg nonblank]
      simp only [goesOn, isStrayColon, Bool.false_and, Bool.false_eq_true, if_false]
      rw [show Gap.empty = .blanks [] from rfl,
        ih (by simpa using goes) (Nat.succ_pos _) further rfl, Cursor.past_onward]
      simp [Gap.joint, Gap.empty]

/-- A plain scalar starts with a character that is no blank, and with a colon only if that is
followed by none. -/
theorem startsPlain_cons {c : Char} {rest : List Char}
    (starts : startsPlain false (c :: rest) = true) :
    isBlank c = false ∧ isBreak c = false ∧ (c == ':' && blankNext rest) = false := by
  by_cases colon : c = ':'
  · subst colon
    refine ⟨rfl, rfl, ?_⟩
    simpa [startsPlain] using starts
  · have other : (c == ':' && blankNext rest) = false := by simp [colon]
    by_cases mark : c = '-' ∨ c = '?'
    · rcases mark with rfl | rfl <;> exact ⟨rfl, rfl, other⟩
    · obtain ⟨dash, question⟩ := not_or.mp mark
      simp only [startsPlain, dash, question, colon, or_self, if_false, Bool.not_eq_true',
        Bool.or_eq_false_iff] at starts
      exact ⟨by simp_all, by simp_all, other⟩

/-- A plain scalar is read as it is written, as far as its line goes. -/
theorem plain?_run {run tail : List Char} (plain : isPlain run = true)
    (deep : least ≤ cursor.column + 1) (here : cursor.rest = run ++ tail) :
    plain? false least cursor =
      plainRest? false least run.reverse .empty (cursor.past run tail) tail := by
  cases run with
  | nil => cases plain
  | cons c rest =>
    simp only [isPlain, Bool.and_eq_true] at plain
    obtain ⟨⟨⟨starts, -⟩, -⟩, goes⟩ := plain
    obtain ⟨nonblank, line, colon⟩ := startsPlain_cons starts
    have goesOn : endsPlain false least .empty { cursor with rest := c :: (rest ++ tail) } c
        (rest ++ tail) = false := by
      rw [endsPlain, not_colon_of_blankNext colon tail]
      rfl
    rw [plain?, here, List.cons_append, plainRest?]
    simp only [line, nonblank, goesOn, isStrayColon, Bool.false_and, Bool.false_eq_true, if_false]
    rw [show Gap.empty = .blanks [] from rfl,
      plainRest?_run (by exact goes) (Nat.succ_pos _) deep rfl, Cursor.past_onward]
    simp [Gap.joint, Gap.empty]

/-- A plain scalar ends at a colon with a blank after it. -/
theorem plainRest?_colon {found tail : List Char} (blank : blankNext tail = true)
    (here : cursor.rest = ':' :: tail) :
    plainRest? false least found .empty cursor (':' :: tail) =
      some ⟨String.ofList found.reverse, cursor, false⟩ := by
  have ends : endsPlain false least .empty { cursor with rest := ':' :: tail } ':' tail = true := by
    simp [endsPlain, blank]
  rw [plainRest?, if_neg (by decide), if_neg (by decide)]
  simp only [ends, if_true]
  rw [← here]
  rfl

def apostrophe : Char := Char.ofNat 0x27

/-- How a character is written between quotes: a single quote is doubled between single quotes, a
double quote and a backslash get a backslash between double quotes. -/
def quotedChar (double : Bool) (c : Char) : List Char :=
  if double then if c = '"' ∨ c = '\\' then ['\\', c] else [c]
  else if c = apostrophe then [c, c] else [c]

def quoteMark (double : Bool) : Char := if double then '"' else apostrophe

private theorem quotedRest?_blank {double : Bool} {found blanks rest : List Char} {c : Char}
    (blank : isBlank c = true) :
    quotedRest? double .ordinary found (.blanks blanks) cursor (c :: rest) =
      quotedRest? double .ordinary found (.blanks (c :: blanks)) (cursor.onward c rest) rest := by
  rw [quotedRest?]
  simp only [isBreak_of_isBlank blank, blank, Bool.false_eq_true, if_false, if_true, Gap.addBlank]

/-- What any other character between quotes does. -/
theorem quotedRest?_nonblank {double : Bool} {found blanks rest : List Char} {c : Char}
    (inside : 0 < cursor.column) (line : isBreak c = false) (nonblank : isBlank c = false) :
    quotedRest? double .ordinary found (.blanks blanks) cursor (c :: rest) =
      if double && c == '"' then
        some ⟨String.ofList (blanks ++ found).reverse, cursor.onward c rest, false⟩
      else if double && c == '\\' then
        quotedRest? double .escape (blanks ++ found) .empty (cursor.onward c rest) rest
      else if !double && c.toNat == 0x27 then
        quotedRest? double .quote (blanks ++ found) .empty (cursor.onward c rest) rest
      else
        quotedRest? double .ordinary (c :: (blanks ++ found)) .empty (cursor.onward c rest)
          rest := by
  have marker : { cursor with rest := c :: rest : Cursor }.atMarker = false :=
    Cursor.atMarker_of_pos inside
  rw [quotedRest?]
  simp only [line, nonblank, marker, Bool.false_eq_true, if_false, Gap.joint]

theorem toNat_eq_apostrophe {c : Char} : c.toNat = 0x27 ↔ c = apostrophe := by
  constructor
  · intro same
    rw [← Char.ofNat_toNat c, same]
    rfl
  · rintro rfl
    rfl

private theorem quotedRest?_char {double : Bool} {found blanks rest : List Char} {c : Char}
    (inside : 0 < cursor.column) (line : isBreak c = false) (nonblank : isBlank c = false) :
    quotedRest? double .ordinary found (.blanks blanks) cursor (quotedChar double c ++ rest) =
      quotedRest? double .ordinary (c :: (blanks ++ found)) (.blanks [])
        (cursor.past (quotedChar double c) rest) rest := by
  cases double with
  | true =>
    by_cases special : c = '"' ∨ c = '\\'
    · have written : quotedChar true c = ['\\', c] := by simp [quotedChar, special]
      have escapes : isBreak c = false ∧ numericEscape? c = none ∧ quoteEscape? c = some c := by
        rcases special with rfl | rfl <;> decide
      rw [written, List.cons_append, quotedRest?_nonblank inside (by rfl) (by rfl)]
      simp only [Bool.true_and, List.singleton_append]
      rw [if_neg (by decide), if_pos (by decide), quotedRest?]
      simp only [escapes, Bool.false_eq_true, if_false, Cursor.onward_onward]
      rfl
    · have written : quotedChar true c = [c] := by simp [quotedChar, special]
      obtain ⟨quote, backslash⟩ := not_or.mp special
      rw [written, List.singleton_append, quotedRest?_nonblank inside line nonblank]
      simp only [quote, backslash, Bool.true_and, beq_iff_eq, if_false, Bool.not_true,
        Bool.false_and, Bool.false_eq_true]
      rfl
  | false =>
    by_cases quote : c = apostrophe
    · have written : quotedChar false c = [c, c] := by simp [quotedChar, quote]
      have same := toNat_eq_apostrophe.mpr quote
      rw [written, List.cons_append, quotedRest?_nonblank inside line nonblank]
      simp only [Bool.false_and, Bool.false_eq_true, if_false, Bool.not_false, Bool.true_and, same,
        beq_self_eq_true, if_true, List.singleton_append]
      rw [quotedRest?]
      simp only [same, if_true, Cursor.onward_onward]
      rfl
    · have written : quotedChar false c = [c] := by simp [quotedChar, quote]
      have other := mt toNat_eq_apostrophe.mp quote
      rw [written, List.singleton_append, quotedRest?_nonblank inside line nonblank]
      simp only [Bool.false_and, Bool.false_eq_true, if_false, Bool.not_false, Bool.true_and,
        beq_iff_eq, other]
      rfl

private theorem quotedRest?_quoteMark {double : Bool} {found blanks rest : List Char}
    (inside : 0 < cursor.column) (ends : rest.head? ≠ some apostrophe) :
    quotedRest? double .ordinary found (.blanks blanks) cursor (quoteMark double :: rest) =
      some ⟨String.ofList (blanks ++ found).reverse, cursor.past [quoteMark double] rest,
        false⟩ := by
  cases double with
  | true => exact quotedRest?_nonblank inside (by rfl) (by rfl)
  | false =>
    refine (quotedRest?_nonblank inside (by rfl) (by rfl)).trans ?_
    rw [if_neg (by decide), if_neg (by decide), if_pos (by decide)]
    cases rest with
    | nil => rfl
    | cons c rest =>
      have other : c.toNat ≠ 0x27 := fun same =>
        ends (congrArg some (toNat_eq_apostrophe.mp same))
      rw [quotedRest?]
      simp only [other, if_false]
      rfl

/-- What is written between quotes is read back. -/
theorem quotedRest?_run {double : Bool} {run rest : List Char}
    (ends : rest.head? ≠ some apostrophe) (line : ∀ c ∈ run, isBreak c = false) :
    ∀ {found blanks : List Char} {cursor : Cursor}, 0 < cursor.column →
      quotedRest? double .ordinary found (.blanks blanks) cursor
          (run.flatMap (quotedChar double) ++ quoteMark double :: rest) =
        some ⟨String.ofList ((blanks ++ found).reverse ++ run),
          cursor.past (run.flatMap (quotedChar double) ++ [quoteMark double]) rest, false⟩ := by
  induction run with
  | nil =>
    intro found blanks cursor inside
    rw [List.append_nil]
    exact quotedRest?_quoteMark inside ends
  | cons c run ih =>
    intro found blanks cursor inside
    obtain ⟨here, line⟩ := List.forall_mem_cons.mp line
    rw [List.flatMap_cons, List.append_assoc]
    cases blank : isBlank c with
    | true =>
      have written : quotedChar double c = [c] := by
        simp only [isBlank, Bool.or_eq_true, beq_iff_eq] at blank
        rcases blank with rfl | rfl <;> cases double <;> rfl
      rw [written, List.singleton_append, quotedRest?_blank blank, ih line (Nat.succ_pos _)]
      simp
    | false =>
      have further (tail : List Char) : 0 < (cursor.past (quotedChar double c) tail).column :=
        Nat.lt_of_lt_of_le inside (Nat.le_add_right _ _)
      rw [quotedRest?_char inside here blank, ih line (further _)]
      simp

/-- A scalar between quotes is read back. -/
theorem quoted?_run {double : Bool} {run rest : List Char}
    (ends : rest.head? ≠ some apostrophe) (line : ∀ c ∈ run, isBreak c = false)
    (here : cursor.rest =
      quoteMark double :: (run.flatMap (quotedChar double) ++ quoteMark double :: rest)) :
    quoted? double cursor = some ⟨String.ofList run,
      cursor.past (quoteMark double :: (run.flatMap (quotedChar double) ++ [quoteMark double]))
        rest, false⟩ := by
  rw [quoted?, Cursor.next, here]
  exact (quotedRest?_run ends line (Nat.succ_pos _)).trans (by simp)

end BatchChanges.Yaml
