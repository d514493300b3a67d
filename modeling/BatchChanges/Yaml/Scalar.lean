import BatchChanges.Yaml.Cursor

/-! # Scalars

Plain and quoted scalars and block scalars. A scalar may run over several lines: between two of its
characters, a single line feed is read as a blank, and of more of them all but the first count.
-/

namespace BatchChanges.Yaml

/-- What stands between two characters of a scalar. The characters are in reverse. -/
inductive Gap where
  /-- Blanks on one line. -/
  | blanks (chars : List Char)
  /-- Line breaks: the first, unless it does not count, and the others. -/
  | breaks (first : Option Char) (others : List Char)

namespace Gap

def empty : Gap := blanks []

def isEmpty : Gap → Bool
  | blanks [] => true
  | _ => false

def hasBreak : Gap → Bool
  | blanks _ => false
  | breaks _ _ => true

/-- The gap with one more line break; the blanks around it do not count. -/
def addBreak (c : Char) : Gap → Gap
  | blanks _ => breaks (some c) []
  | breaks first others => breaks first (c :: others)

def addBlank (c : Char) : Gap → Gap
  | blanks chars => blanks (c :: chars)
  | breaks first others => breaks first others

/-- What the gap is read as, in reverse. -/
def joint : Gap → List Char
  | blanks chars => chars
  | breaks (some '\n') [] => [' ']
  | breaks (some '\n') others => others
  | breaks (some first) others => others ++ [first]
  | breaks none others => others

end Gap

/-- A scalar, the place after it, and whether a line break was passed since its last character. -/
structure Scalar where
  text : String
  cursor : Cursor
  afterBreak : Bool := false

/-- The characters with a meaning of their own inside of brackets. -/
def isFlowMark (c : Char) : Bool := c == ',' || c == '[' || c == ']' || c == '{' || c == '}'

/-- Whether a plain scalar ends before the next character, which is no blank. A scalar outside of
brackets goes on only on lines that are indented by at least `least`. -/
def endsPlain (flow : Bool) (least : Nat) (gap : Gap) (cursor : Cursor) (c : Char)
    (rest : List Char) : Bool :=
  (!gap.isEmpty &&
      ((!flow && decide (cursor.column < least)) || cursor.atMarker || c == '#')) ||
    (c == ':' && blankNext rest) || (flow && isFlowMark c)

/-- Whether a colon stands inside of brackets where it neither belongs to a plain scalar nor ends
it. -/
def isStrayColon (flow : Bool) (c : Char) (rest : List Char) : Bool :=
  flow && c == ':' && match rest with
    | d :: _ => isFlowMark d || d == '?'
    | [] => false

/-- The rest of a plain scalar, whose characters so far are given in reverse. -/
def plainRest? (flow : Bool) (least : Nat) (found : List Char) (gap : Gap) (cursor : Cursor) :
    List Char → Option Scalar
  | [] => some ⟨String.ofList found.reverse, { cursor with rest := [] }, gap.hasBreak⟩
  | c :: rest =>
    if isBreak c then plainRest? flow least found (gap.addBreak c) (cursor.nextLine c rest) rest
    else if isBlank c then
      if gap.hasBreak ∧ c = '\t' ∧ cursor.column < least then none
      else plainRest? flow least found (gap.addBlank c) (cursor.onward c rest) rest
    else
      let here : Cursor := { cursor with rest := c :: rest }
      if endsPlain flow least gap here c rest then
        some ⟨String.ofList found.reverse, here, gap.hasBreak⟩
      else if isStrayColon flow c rest then none
      else
        plainRest? flow least (c :: (gap.joint ++ found)) .empty (cursor.onward c rest) rest

def startsPlain (flow : Bool) : List Char → Bool
  | [] => false
  | c :: rest =>
    if c = '-' then
      match rest with
      | d :: _ => !isBlank d
      | [] => true
    else if c = '?' ∨ c = ':' then !flow && !blankNext rest
    else !(isBlank c || isBreak c || isFlowMark c || c == '#' || c == '&' || c == '*' || c == '!' ||
      c == '|' || c == '>' || c.toNat == 0x27 || c == '"' || c == '%' || c == '@' ||
      c.toNat == 0x60)

def plain? (flow : Bool) (least : Nat) (cursor : Cursor) : Option Scalar :=
  plainRest? flow least [] .empty cursor cursor.rest

/-- Where the reader of a quoted scalar is. -/
inductive QuoteMode where
  /-- Among ordinary characters. -/
  | ordinary
  /-- After a backslash. -/
  | escape
  /-- Inside a numeric escape of which `left` digits are missing. -/
  | numeric (left value : Nat)
  /-- After a single quote, which either ends the scalar or is one half of a written quote. -/
  | quote

def quoteEscape? (c : Char) : Option Char :=
  match c with
  | '0' => some (Char.ofNat 0x00)
  | 'a' => some (Char.ofNat 0x07)
  | 'b' => some (Char.ofNat 0x08)
  | 't' => some '\t'
  | '\t' => some '\t'
  | 'n' => some '\n'
  | 'v' => some (Char.ofNat 0x0b)
  | 'f' => some (Char.ofNat 0x0c)
  | 'r' => some '\r'
  | 'e' => some (Char.ofNat 0x1b)
  | ' ' => some ' '
  | '"' => some '"'
  | '/' => some '/'
  | '\\' => some '\\'
  | 'N' => some (Char.ofNat 0x85)
  | '_' => some (Char.ofNat 0xa0)
  | 'L' => some (Char.ofNat 0x2028)
  | 'P' => some (Char.ofNat 0x2029)
  | _ => none

def numericEscape? (c : Char) : Option Nat :=
  if c = 'x' then some 2 else if c = 'u' then some 4 else if c = 'U' then some 8 else none

def hexDigit? (c : Char) : Option Nat :=
  if '0' ≤ c ∧ c ≤ '9' then some (c.toNat - 48)
  else if 'a' ≤ c ∧ c ≤ 'f' then some (c.toNat - 87)
  else if 'A' ≤ c ∧ c ≤ 'F' then some (c.toNat - 55)
  else none

/-- The rest of a quoted scalar after its opening quote. Escapes count between double quotes only,
and a document marker inside is refused. -/
def quotedRest? (double : Bool) (mode : QuoteMode) (found : List Char) (gap : Gap)
    (cursor : Cursor) : List Char → Option Scalar
  | [] =>
    match mode with
    | .quote => some ⟨String.ofList found.reverse, { cursor with rest := [] }, false⟩
    | _ => none
  | c :: rest =>
    let onward := cursor.onward c rest
    match mode with
    | .quote =>
      if c.toNat = 0x27 then quotedRest? double .ordinary (c :: found) .empty onward rest
      else some ⟨String.ofList found.reverse, { cursor with rest := c :: rest }, false⟩
    | .escape =>
      if isBreak c then
        quotedRest? double .ordinary found (.breaks none []) (cursor.nextLine c rest) rest
      else
        match numericEscape? c with
        | some left => quotedRest? double (.numeric left 0) found .empty onward rest
        | none =>
          match quoteEscape? c with
          | some char => quotedRest? double .ordinary (char :: found) .empty onward rest
          | none => none
    | .numeric left value =>
      match hexDigit? c with
      | none => none
      | some digit =>
        let value := value * 16 + digit
        if left ≤ 1 then
          if value.isValidChar then
            quotedRest? double .ordinary (Char.ofNat value :: found) .empty onward rest
          else none
        else quotedRest? double (.numeric (left - 1) value) found .empty onward rest
    | .ordinary =>
      if isBreak c then
        quotedRest? double .ordinary found (gap.addBreak c) (cursor.nextLine c rest) rest
      else if isBlank c then quotedRest? double .ordinary found (gap.addBlank c) onward rest
      else if { cursor with rest := c :: rest : Cursor }.atMarker then none
      else
        let found := gap.joint ++ found
        if double && c == '"' then some ⟨String.ofList found.reverse, onward, false⟩
        else if double && c == '\\' then quotedRest? double .escape found .empty onward rest
        else if !double && c.toNat == 0x27 then quotedRest? double .quote found .empty onward rest
        else quotedRest? double .ordinary (c :: found) .empty onward rest

def quoted? (double : Bool) (cursor : Cursor) : Option Scalar :=
  quotedRest? double .ordinary [] .empty cursor.next cursor.next.rest

/-- What becomes of the line breaks at the end of a block scalar. -/
inductive Chomping where
  | strip
  | clip
  | keep
deriving DecidableEq

def chomping? (c : Char) : Option Chomping :=
  if c = '+' then some .keep else if c = '-' then some .strip else none

def statedIndent? (c : Char) : Option Nat :=
  if '1' ≤ c ∧ c ≤ '9' then some (c.toNat - 48) else none

/-- The header of a block scalar: its chomping and the indentation that it states, in either order
and each at most once. -/
def blockHeader (cursor : Cursor) : Chomping × Option Nat × Cursor :=
  let first := cursor.rest.head?
  let second := cursor.next.rest.head?
  match first.bind chomping?, first.bind statedIndent? with
  | some chomping, _ =>
    match second.bind statedIndent? with
    | some indent => (chomping, some indent, cursor.next.next)
    | none => (chomping, none, cursor.next)
  | none, some indent =>
    match second.bind chomping? with
    | some chomping => (chomping, some indent, cursor.next.next)
    | none => (.clip, some indent, cursor.next)
  | none, none => (.clip, none, cursor)

/-- Skips the empty lines and the indentation in front of a line of a block scalar: the deepest
indentation seen, the line breaks in reverse, and the place reached. An indentation that is not
known yet is of any depth. -/
def blockGap? (indent : Option Nat) (deepest : Nat) (breaks : List Char) (cursor : Cursor) :
    List Char → Option (Nat × List Char × Cursor)
  | [] => some (max deepest cursor.column, breaks, { cursor with rest := [] })
  | c :: rest =>
    let inside := indent.all (cursor.column < ·)
    if inside && c == ' ' then blockGap? indent deepest breaks (cursor.onward c rest) rest
    else if inside && c == '\t' then none
    else if isBreak c then
      blockGap? indent (max deepest cursor.column) (c :: breaks) (cursor.nextLine c rest) rest
    else some (max deepest cursor.column, breaks, { cursor with rest := c :: rest })

/-- The text of a block scalar as far as it is read. -/
structure BlockText where
  /-- The lines but for the break of the last one, in reverse. -/
  found : List Char := []
  /-- The break of the last line. -/
  ending : Option Char := none
  /-- Whether the last line starts with a blank. -/
  afterBlank : Bool := false
  /-- The breaks of empty lines since, in reverse. -/
  empty : List Char := []

namespace BlockText

/-- The text with one more line. In a folded scalar, a line feed between two lines that start with
no blank is read as a blank, or as nothing if there are empty lines between them. -/
def addLine (literal : Bool) (block : BlockText) (line : List Char) (ending : Option Char) :
    BlockText :=
  let blank := match line with
    | c :: _ => isBlank c
    | [] => false
  let joint :=
    if !literal && block.ending == some '\n' && !block.afterBlank && !blank then
      if block.empty.isEmpty then [' '] else []
    else block.ending.toList
  ⟨line.reverse ++ (block.empty ++ (joint ++ block.found)), ending, blank, []⟩

def text (chomping : Chomping) (block : BlockText) : String :=
  let found := match chomping with
    | .strip => block.found
    | .clip => block.ending.toList ++ block.found
    | .keep => block.empty ++ (block.ending.toList ++ block.found)
  String.ofList found.reverse

end BlockText

/-- The lines of a block scalar, which are indented by `indent`. `fuel` bounds their number. -/
def blockLines? (fuel : Nat) (literal : Bool) (indent : Nat) (block : BlockText)
    (cursor : Cursor) : Option (BlockText × Cursor) :=
  match fuel with
  | 0 => none
  | fuel + 1 =>
    if cursor.column ≠ indent ∨ cursor.rest = [] then some (block, cursor)
    else
      let (line, cursor) := cursor.span (!isBreak ·)
      match cursor.rest with
      | [] => some (block.addLine literal line none, cursor)
      | c :: rest =>
        match blockGap? (some indent) 0 [] (cursor.nextLine c rest) rest with
        | none => none
        | some (_, empty, cursor) =>
          blockLines? fuel literal indent { block.addLine literal line (some c) with empty } cursor

/-- A block scalar whose indicator comes next. Its lines are indented by at least `least`, and by
more if the header states so or else the first of them is. -/
def blockScalar? (literal : Bool) (least : Nat) (cursor : Cursor) : Option Scalar := do
  let (chomping, stated, afterHeader) := blockHeader cursor.next
  let first ← afterHeader.toNextLine?
  let known := stated.map (least - 1 + ·)
  let (deepest, empty, cursor) ← blockGap? known 0 [] first first.rest
  let indent := known.getD (max deepest (max least 1))
  let (block, cursor) ←
    blockLines? (cursor.rest.length + 1) literal indent { empty } cursor
  return ⟨block.text chomping, cursor, false⟩

end BatchChanges.Yaml
