import BatchChanges.Yaml

/-! # Places in a YAML text

A cursor knows where it is and what text is left. Line endings are line feeds, and the separators of
lines and paragraphs, which end a line as well but stay what they are wherever a line ending is part
of a scalar.
-/

namespace BatchChanges.Yaml

def isBreak (c : Char) : Bool := c == '\n' || c.toNat == 0x2028 || c.toNat == 0x2029

def isBlank (c : Char) : Bool := c == ' ' || c == '\t'

/-- Whether a blank, a line break or the end of the text comes first. -/
def blankNext : List Char → Bool
  | [] => true
  | c :: _ => isBlank c || isBreak c

/-- A place in a text: how far in it is, in bytes, where it is on its line, and the characters from
there on. -/
structure Cursor where
  offset : Nat
  line : Nat
  column : Nat
  rest : List Char

namespace Cursor

def start (chars : List Char) : Cursor := ⟨0, 0, 0, chars⟩

def onward (cursor : Cursor) (c : Char) (rest : List Char) : Cursor :=
  ⟨cursor.offset + c.utf8Size, cursor.line, cursor.column + 1, rest⟩

def nextLine (cursor : Cursor) (c : Char) (rest : List Char) : Cursor :=
  ⟨cursor.offset + c.utf8Size, cursor.line + 1, 0, rest⟩

def next (cursor : Cursor) : Cursor :=
  match cursor.rest with
  | c :: rest => cursor.onward c rest
  | [] => cursor

/-- Passes the characters that a test accepts, none of which ends a line. -/
def passWhile (test : Char → Bool) (cursor : Cursor) : List Char → List Char × Cursor
  | [] => ([], { cursor with rest := [] })
  | c :: rest =>
    if test c then
      let (passed, cursor) := (cursor.onward c rest).passWhile test rest
      (c :: passed, cursor)
    else ([], { cursor with rest := c :: rest })

/-- The characters from here on that a test accepts, and the place after them. -/
def span (test : Char → Bool) (cursor : Cursor) : List Char × Cursor :=
  cursor.passWhile test cursor.rest

def afterBlanks (cursor : Cursor) : Cursor := (cursor.span isBlank).2

/-- The start of the next line, if nothing but blanks and a comment is left of this one. -/
def toNextLine? (cursor : Cursor) : Option Cursor :=
  let cursor := cursor.afterBlanks
  let cursor := if cursor.rest.head? = some '#' then (cursor.span (!isBreak ·)).2 else cursor
  match cursor.rest with
  | [] => some cursor
  | c :: rest => if isBreak c then some (cursor.nextLine c rest) else none

/-- Whether three characters `mark` come next and a blank after them. -/
def atMarks (cursor : Cursor) (mark : Char) : Bool :=
  match cursor.rest with
  | a :: b :: c :: rest => a == mark && b == mark && c == mark && blankNext rest
  | _ => false

def atMarker (cursor : Cursor) : Bool :=
  cursor.column == 0 && (cursor.atMarks '-' || cursor.atMarks '.')

end Cursor

/-- Writes every line ending as a line feed, but for separators of lines and paragraphs. -/
def unifyLineEnds : List Char → List Char
  | '\r' :: '\n' :: rest => '\n' :: unifyLineEnds rest
  | '\r' :: rest => '\n' :: unifyLineEnds rest
  | c :: rest => (if c.toNat = 0x85 then '\n' else c) :: unifyLineEnds rest
  | [] => []

/-- The characters that may stand in a text with unified line endings. -/
def isAllowed (c : Char) : Bool :=
  let code := c.toNat
  code == 0x09 || code == 0x0a || (0x20 ≤ code && code ≤ 0x7e) ||
    (0xa0 ≤ code && code ≤ 0xfffd) || 0x10000 ≤ code

end BatchChanges.Yaml
