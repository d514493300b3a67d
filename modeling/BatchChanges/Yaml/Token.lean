import BatchChanges.Yaml.Scalar

/-! # Tokens of a YAML text

Tokens are the marks and scalars of a text, and besides them marks that are not written: where a
block collection starts and ends, which its indentation shows, and where a key starts, which shows
only at the colon after it. So whatever may be a key is kept in mind until the line ends or has gone
on for more than 1024 bytes.
-/

namespace BatchChanges.Yaml

/-- A token. -/
inductive Token where
  | version (major minor : Nat)
  /-- A short name for the start of tags. -/
  | handle (name full : String)
  | documentStart
  | documentEnd
  | blockSequenceStart
  | blockMappingStart
  | blockEnd
  | flowSequenceStart
  | flowSequenceEnd
  | flowMappingStart
  | flowMappingEnd
  /-- A dash before an item of a block sequence. -/
  | item
  /-- A comma between items in brackets. -/
  | separator
  | key
  | value
  | anchor (name : String)
  | alias (name : String)
  | tag (handle suffix : String)
  | scalar (plain : Bool) (text : String)
deriving DecidableEq

/-- The start of what may turn out to be a key. -/
structure KeyStart where
  /-- The number of tokens before it. -/
  place : Nat
  cursor : Cursor
  /-- Whether it has to turn out to be a key, for it stands where the keys of a block mapping do. -/
  required : Bool

namespace KeyStart

/-- The number of bytes that a key may have. -/
def limit : Nat := 1024

def isPast (start : KeyStart) (cursor : Cursor) : Bool :=
  decide (start.cursor.line < cursor.line) ||
    decide (start.cursor.offset + limit < cursor.offset)

/-- The start of a key, unless a colon would come too late; `none` if there had to be one. -/
def keep? (cursor : Cursor) : Option KeyStart → Option (Option KeyStart)
  | none => some none
  | some start =>
    if start.isPast cursor then if start.required then none else some none
    else some (some start)

end KeyStart

/-- A text that is split into tokens as far as the cursor. -/
structure Lexer where
  cursor : Cursor
  tokens : Array Token := #[]
  /-- The columns of the open block collections, the innermost first. -/
  columns : List Nat := []
  /-- Whether a key may start here. -/
  keyAllowed : Bool := true
  /-- The start of what may be a key, within the innermost open bracket. -/
  key : Option KeyStart := none
  /-- The same outside of each open bracket, the innermost first. -/
  outerKeys : List (Option KeyStart) := []

namespace Lexer

def inFlow (lexer : Lexer) : Bool := !lexer.outerKeys.isEmpty

/-- The least column at which content of the innermost block collection may stand. -/
def least (lexer : Lexer) : Nat :=
  match lexer.columns with
  | [] => 0
  | column :: _ => column + 1

def push (lexer : Lexer) (token : Token) (cursor : Cursor) : Lexer :=
  { lexer with tokens := lexer.tokens.push token, cursor }

def allowKey (lexer : Lexer) (allowed : Bool) : Lexer := { lexer with keyAllowed := allowed }

/-- Skips blanks, comments and line breaks. A tab counts as a blank inside of brackets, and
elsewhere only where no key may start, which is everywhere on a new line. A mark of the byte order
may start a line. -/
def skipGap (flow keyAllowed comment : Bool) (cursor : Cursor) : List Char → Cursor × Bool
  | [] => ({ cursor with rest := [] }, keyAllowed)
  | c :: rest =>
    let onward := cursor.onward c rest
    if isBreak c then skipGap flow (keyAllowed || !flow) false (cursor.nextLine c rest) rest
    else if comment then skipGap flow keyAllowed true onward rest
    else if c = ' ' ∨ (c = '\t' ∧ (flow ∨ ¬keyAllowed)) then
      skipGap flow keyAllowed false onward rest
    else if cursor.column = 0 ∧ c.toNat = 0xfeff then skipGap flow keyAllowed false onward rest
    else if c = '#' then skipGap flow keyAllowed true onward rest
    else ({ cursor with rest := c :: rest }, keyAllowed)

def toToken (lexer : Lexer) : Lexer :=
  let (cursor, keyAllowed) :=
    skipGap lexer.inFlow lexer.keyAllowed false lexer.cursor lexer.cursor.rest
  { lexer with cursor, keyAllowed }

/-- Gives up what cannot be a key any more. -/
def dropPastKeys? (lexer : Lexer) : Option Lexer := do
  let key ← KeyStart.keep? lexer.cursor lexer.key
  let outerKeys ← lexer.outerKeys.mapM (KeyStart.keep? lexer.cursor)
  return { lexer with key, outerKeys }

def dropKey? (lexer : Lexer) : Option Lexer :=
  if lexer.key.any (·.required) then none else some { lexer with key := none }

def noteKey? (lexer : Lexer) : Option Lexer :=
  if lexer.keyAllowed then do
    let lexer ← lexer.dropKey?
    let required := !lexer.inFlow && lexer.columns.head? == some lexer.cursor.column
    return { lexer with key := some ⟨lexer.tokens.size, lexer.cursor, required⟩ }
  else some lexer

/-- Starts a block collection at a column and before a token, unless one is open there. -/
def openBlock (lexer : Lexer) (column place : Nat) (start : Token) : Lexer :=
  if !lexer.inFlow && decide (lexer.least ≤ column) then
    { lexer with
      columns := column :: lexer.columns
      tokens := lexer.tokens.insertIdxIfInBounds place start }
  else lexer

/-- Ends the block collections whose columns a test accepts, from the innermost on. -/
def closeBlocks (lexer : Lexer) (test : Nat → Bool) : Lexer :=
  if lexer.inFlow then lexer
  else
    { lexer with
      columns := lexer.columns.dropWhile test
      tokens := lexer.tokens ++ (lexer.columns.takeWhile test).map fun _ => Token.blockEnd }

def closeAll (lexer : Lexer) : Lexer := lexer.closeBlocks fun _ => true

def isNameChar (c : Char) : Bool := c.isAlphanum || c == '-' || c == '_'

/-- Whether a character may stand in a tag. Commas and brackets may only where a tag is written in
full. -/
def isTagChar (full : Bool) (c : Char) : Bool :=
  isNameChar c || (";/?:@&=+$.!~*()".toList.contains c) || c.toNat == 0x27 ||
    (full && (c == ',' || c == '[' || c == ']'))

def versionNumber? (cursor : Cursor) : Option (Nat × Cursor) :=
  let (run, cursor) := cursor.span Char.isDigit
  if run ≠ [] ∧ run.length ≤ 9 then
    some (run.foldl (fun number c => 10 * number + (c.toNat - 48)) 0, cursor)
  else none

/-- The short name that a tag may start with: an exclamation mark, or a word between two. -/
def tagHandle (cursor : Cursor) : List Char × Cursor :=
  let (name, afterName) := cursor.next.span isNameChar
  if afterName.rest.head? = some '!' then ('!' :: name ++ ['!'], afterName.next)
  else ('!' :: name, afterName)

def directive? (cursor : Cursor) : Option (Token × Cursor) := do
  let (name, cursor) := cursor.next.span isNameChar
  guard (blankNext cursor.rest)
  let cursor := cursor.afterBlanks
  if name = "YAML".toList then
    let (major, cursor) ← versionNumber? cursor
    guard (cursor.rest.head? = some '.')
    let (minor, cursor) ← versionNumber? cursor.next
    return (.version major minor, cursor)
  else if name = "TAG".toList then
    guard (cursor.rest.head? = some '!')
    let (handle, cursor) := tagHandle cursor
    guard ((handle = ['!'] ∨ handle.length ≠ 1 ∧ handle.getLast? = some '!') ∧
      cursor.rest.head?.any isBlank)
    let (full, cursor) := cursor.afterBlanks.span (isTagChar true)
    guard (full ≠ [] ∧ blankNext cursor.rest)
    return (.handle (String.ofList handle) (String.ofList full), cursor)
  else none

/-- A tag, in full between angle brackets or with a short name at its start. -/
def tag? (cursor : Cursor) : Option (Token × Cursor) :=
  if cursor.next.rest.head? = some '<' then do
    let (full, cursor) := cursor.next.next.span (isTagChar true)
    guard (full ≠ [] ∧ cursor.rest.head? = some '>')
    return (.tag "" (String.ofList full), cursor.next)
  else do
    let (handle, afterHandle) := tagHandle cursor
    let (suffix, cursor) := afterHandle.span (isTagChar false)
    if 1 < handle.length ∧ handle.getLast? = some '!' then
      guard (suffix ≠ [])
      return (.tag (String.ofList handle) (String.ofList suffix), cursor)
    else
      let suffix := handle.drop 1 ++ suffix
      if suffix = [] then return (.tag "" "!", cursor)
      else return (.tag "!" (String.ofList suffix), cursor)

def anchorName? (cursor : Cursor) : Option (String × Cursor) :=
  let (name, cursor) := cursor.next.span isNameChar
  if name ≠ [] ∧ (blankNext cursor.rest ∨ cursor.rest.head?.any fun c =>
      c == '?' || c == ':' || c == ',' || c == ']' || c == '}' || c == '%' || c == '@' ||
        c.toNat == 0x60) then
    some (String.ofList name, cursor)
  else none

def addMarker? (lexer : Lexer) (marker : Token) : Option Lexer := do
  let lexer ← lexer.closeAll.dropKey?
  return (lexer.push marker lexer.cursor.next.next.next).allowKey false

def addDirective? (lexer : Lexer) : Option Lexer := do
  let lexer ← lexer.closeAll.dropKey?
  let (directive, cursor) ← directive? lexer.cursor
  return (lexer.push directive (← cursor.toNextLine?)).allowKey false

def addOpening? (lexer : Lexer) (bracket : Token) : Option Lexer := do
  let lexer ← lexer.noteKey?
  let lexer := { lexer with key := none, outerKeys := lexer.key :: lexer.outerKeys }
  return (lexer.push bracket lexer.cursor.next).allowKey true

def addClosing? (lexer : Lexer) (bracket : Token) : Option Lexer := do
  let lexer ← lexer.dropKey?
  let lexer := match lexer.outerKeys with
    | key :: outerKeys => { lexer with key, outerKeys }
    | [] => lexer
  return (lexer.push bracket lexer.cursor.next).allowKey false

def addSeparator? (lexer : Lexer) : Option Lexer := do
  let lexer ← lexer.dropKey?
  return (lexer.push .separator lexer.cursor.next).allowKey true

def addItem? (lexer : Lexer) : Option Lexer := do
  guard (lexer.inFlow || lexer.keyAllowed)
  let lexer := lexer.openBlock lexer.cursor.column lexer.tokens.size .blockSequenceStart
  let lexer ← lexer.dropKey?
  return (lexer.push .item lexer.cursor.next).allowKey true

def addKey? (lexer : Lexer) : Option Lexer := do
  guard (lexer.inFlow || lexer.keyAllowed)
  let lexer := lexer.openBlock lexer.cursor.column lexer.tokens.size .blockMappingStart
  let lexer ← lexer.dropKey?
  return (lexer.push .key lexer.cursor.next).allowKey !lexer.inFlow

/-- Adds a colon. What may be a key is one from now on. -/
def addValue? (lexer : Lexer) : Option Lexer :=
  match lexer.key with
  | some start =>
    let lexer :=
      { lexer with key := none, tokens := lexer.tokens.insertIdxIfInBounds start.place .key }
    let lexer := lexer.openBlock start.cursor.column start.place .blockMappingStart
    some ((lexer.push .value lexer.cursor.next).allowKey false)
  | none => do
    guard (lexer.inFlow || lexer.keyAllowed)
    let lexer := lexer.openBlock lexer.cursor.column lexer.tokens.size .blockMappingStart
    return (lexer.push .value lexer.cursor.next).allowKey !lexer.inFlow

def addTag? (lexer : Lexer) : Option Lexer := do
  let lexer ← lexer.noteKey?
  let (tag, cursor) ← tag? lexer.cursor
  guard (blankNext cursor.rest ∨ (lexer.inFlow ∧ cursor.rest.head? = some ','))
  return (lexer.push tag cursor).allowKey false

def addAnchor? (lexer : Lexer) (token : String → Token) : Option Lexer := do
  let lexer ← lexer.noteKey?
  let (name, cursor) ← anchorName? lexer.cursor
  return (lexer.push (token name) cursor).allowKey false

def addBlockScalar? (lexer : Lexer) (literal : Bool) : Option Lexer := do
  let lexer ← lexer.dropKey?
  let scalar ← blockScalar? literal lexer.least lexer.cursor
  return (lexer.push (.scalar false scalar.text) scalar.cursor).allowKey true

def addQuoted? (lexer : Lexer) (double : Bool) : Option Lexer := do
  let lexer ← lexer.noteKey?
  let scalar ← quoted? double lexer.cursor
  return (lexer.push (.scalar false scalar.text) scalar.cursor).allowKey false

/-- Adds a plain scalar. After one that ends with its line, a key may start. -/
def addPlain? (lexer : Lexer) : Option Lexer := do
  let lexer ← lexer.noteKey?
  let scalar ← plain? lexer.inFlow lexer.least lexer.cursor
  return (lexer.push (.scalar true scalar.text) scalar.cursor).allowKey scalar.afterBreak

def add? (lexer : Lexer) (c : Char) (rest : List Char) : Option Lexer :=
  let atStart := lexer.cursor.column == 0
  let alone := lexer.inFlow || blankNext rest
  if atStart && c == '%' then lexer.addDirective?
  else if atStart && lexer.cursor.atMarks '-' then lexer.addMarker? .documentStart
  else if atStart && lexer.cursor.atMarks '.' then lexer.addMarker? .documentEnd
  else if c = '[' then lexer.addOpening? .flowSequenceStart
  else if c = '{' then lexer.addOpening? .flowMappingStart
  else if c = ']' then lexer.addClosing? .flowSequenceEnd
  else if c = '}' then lexer.addClosing? .flowMappingEnd
  else if c = ',' then lexer.addSeparator?
  else if c == '-' && blankNext rest then lexer.addItem?
  else if c == '?' && alone then lexer.addKey?
  else if c == ':' && alone then lexer.addValue?
  else if c = '*' then lexer.addAnchor? .alias
  else if c = '&' then lexer.addAnchor? .anchor
  else if c = '!' then lexer.addTag?
  else if c == '|' && !lexer.inFlow then lexer.addBlockScalar? true
  else if c == '>' && !lexer.inFlow then lexer.addBlockScalar? false
  else if c.toNat = 0x27 then lexer.addQuoted? false
  else if c = '"' then lexer.addQuoted? true
  else if startsPlain lexer.inFlow lexer.cursor.rest then lexer.addPlain?
  else none

/-- Adds all tokens that are left. `fuel` bounds their number. -/
def run? : (fuel : Nat) → Lexer → Option (List Token)
  | 0, _ => none
  | fuel + 1, lexer => do
    let lexer ← lexer.toToken.dropPastKeys?
    let lexer := lexer.closeBlocks (lexer.cursor.column < ·)
    match lexer.cursor.rest with
    | [] =>
      let lexer ← lexer.closeAll.dropKey?
      return lexer.tokens.toList
    | c :: rest => run? fuel (← lexer.add? c rest)

end Lexer

def tokens? (source : String) : Option (List Token) := do
  let chars := unifyLineEnds source.toList
  guard (chars.all isAllowed)
  Lexer.run? (chars.length + 1) { cursor := .start chars }

end BatchChanges.Yaml
