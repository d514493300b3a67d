import BatchChanges.Yaml.Token

/-! # Reading YAML texts

A text holds at most one document, between optional markers; a text without content is an absent
node. An alias stands for the node with its anchor, which has to be finished before it.
-/

namespace BatchChanges.Yaml

/-- The tokens that are left, and the nodes with an anchor so far, the first one first. A node that
is not finished is `none`. -/
structure Reading where
  tokens : List Token
  anchors : List (String × Option Yaml) := []

namespace Reading

def onward (reading : Reading) (tokens : List Token) : Reading := { reading with tokens }

def startNode (reading : Reading) : Option String → Reading
  | some name => { reading with anchors := reading.anchors ++ [(name, none)] }
  | none => reading

/-- Notes the node with an anchor that started after `place` others. -/
def endNode (reading : Reading) (place : Nat) (node : Yaml) : Option String → Reading
  | some name => { reading with anchors := reading.anchors.set place (name, some node) }
  | none => reading

def named? (reading : Reading) (name : String) : Option Yaml :=
  (reading.anchors.reverse.lookup name).join

end Reading

/-- The anchor and the tag of a node, in either order, and the tokens after them. -/
def properties : List Token → Option String × Option (String × String) × List Token
  | .anchor name :: .tag handle suffix :: rest => (some name, some (handle, suffix), rest)
  | .tag handle suffix :: .anchor name :: rest => (some name, some (handle, suffix), rest)
  | .anchor name :: rest => (some name, none, rest)
  | .tag handle suffix :: rest => (none, some (handle, suffix), rest)
  | rest => (none, none, rest)

/-- The short names for the start of tags that are known without a directive. -/
def knownHandles : List (String × String) := [("!", "!"), ("!!", "tag:yaml.org,2002:")]

def fullTag? (handles : List (String × String)) : String × String → Option String
  | ("", suffix) => some suffix
  | (handle, suffix) => (handles.lookup handle).map (· ++ suffix)

/-- Whether the key or value of a block mapping is absent before this token. -/
def endsEntry : List Token → Bool
  | .key :: _ => true
  | .value :: _ => true
  | .blockEnd :: _ => true
  | _ => false

def endsFlowValue (closing : Token) : List Token → Bool
  | .separator :: _ => true
  | token :: _ => token == closing
  | [] => false

def endsFlowKey (closing : Token) : List Token → Bool
  | .value :: _ => true
  | tokens => endsFlowValue closing tokens

/-- The tokens of the next item in brackets, which a comma separates from the one before it. -/
def afterSeparator? (closing : Token) (first : Bool) : List Token → Option (List Token)
  | .separator :: rest => if first then some (.separator :: rest) else some rest
  | tokens => if first || tokens.head? == some closing then some tokens else none

mutual

/-- A node. A block collection may stand only where `block` says so, and a sequence whose dashes
stand in the column of the mapping around it only where `level` does. -/
def node? (fuel : Nat) (handles : List (String × String)) (block level : Bool)
    (reading : Reading) : Option (Yaml × Reading) :=
  match fuel with
  | 0 => none
  | fuel + 1 =>
    match reading.tokens with
    | .alias name :: rest => (reading.named? name).map (·, reading.onward rest)
    | tokens => do
      let (anchor, shortTag, rest) := properties tokens
      let tag ← match shortTag with
        | some shortTag => (fullTag? handles shortTag).map some
        | none => some none
      let place := reading.anchors.length
      let (node, reading) ←
        content? fuel handles block level (anchor.isSome || shortTag.isSome)
          ((reading.onward rest).startNode anchor)
      let node := node.withTag tag
      return (node, reading.endNode place node anchor)

/-- A node without its properties. It may be absent if it has any. -/
def content? (fuel : Nat) (handles : List (String × String)) (block level mayBeAbsent : Bool)
    (reading : Reading) : Option (Yaml × Reading) :=
  match fuel with
  | 0 => none
  | fuel + 1 =>
    match reading.tokens with
    | .scalar true text :: rest => some (plain text, reading.onward rest)
    | .scalar false text :: rest => some (quoted text, reading.onward rest)
    | .flowSequenceStart :: rest =>
      (flowItems? fuel handles true (reading.onward rest)).map fun (items, reading) =>
        (sequence items, reading)
    | .flowMappingStart :: rest =>
      (flowEntries? fuel handles true (reading.onward rest)).map fun (entries, reading) =>
        (mapping entries, reading)
    | .item :: rest =>
      if level then
        (levelItems? fuel handles (reading.onward (.item :: rest))).map fun (items, reading) =>
          (sequence items, reading)
      else if mayBeAbsent then some (absent, reading)
      else none
    | .blockSequenceStart :: rest =>
      if block then
        (blockItems? fuel handles (reading.onward rest)).map fun (items, reading) =>
          (sequence items, reading)
      else if mayBeAbsent then some (absent, reading)
      else none
    | .blockMappingStart :: rest =>
      if block then
        (blockEntries? fuel handles (reading.onward rest)).map fun (entries, reading) =>
          (mapping entries, reading)
      else if mayBeAbsent then some (absent, reading)
      else none
    | _ => if mayBeAbsent then some (absent, reading) else none

def blockItems? (fuel : Nat) (handles : List (String × String)) (reading : Reading) :
    Option (List Yaml × Reading) :=
  match fuel with
  | 0 => none
  | fuel + 1 =>
    match reading.tokens with
    | .blockEnd :: rest => some ([], reading.onward rest)
    | .item :: rest => do
      let (item, reading) ←
        match rest with
        | .item :: _ => some (absent, reading.onward rest)
        | .blockEnd :: _ => some (absent, reading.onward rest)
        | _ => node? fuel handles true false (reading.onward rest)
      let (items, reading) ← blockItems? fuel handles reading
      return (item :: items, reading)
    | _ => none

/-- The items of a block sequence in the column of the mapping around it. -/
def levelItems? (fuel : Nat) (handles : List (String × String)) (reading : Reading) :
    Option (List Yaml × Reading) :=
  match fuel with
  | 0 => none
  | fuel + 1 =>
    match reading.tokens with
    | .item :: rest => do
      let (item, reading) ←
        match rest with
        | .item :: _ => some (absent, reading.onward rest)
        | rest =>
          if endsEntry rest then some (absent, reading.onward rest)
          else node? fuel handles true false (reading.onward rest)
      let (items, reading) ← levelItems? fuel handles reading
      return (item :: items, reading)
    | _ => some ([], reading)

def blockEntries? (fuel : Nat) (handles : List (String × String)) (reading : Reading) :
    Option (List (Yaml × Yaml) × Reading) :=
  match fuel with
  | 0 => none
  | fuel + 1 =>
    match reading.tokens with
    | .blockEnd :: rest => some ([], reading.onward rest)
    | .key :: rest => do
      let (key, reading) ← entryPart? fuel handles (reading.onward rest)
      let (value, reading) ←
        match reading.tokens with
        | .value :: rest => entryPart? fuel handles (reading.onward rest)
        | _ => some (absent, reading)
      let (entries, reading) ← blockEntries? fuel handles reading
      return ((key, value) :: entries, reading)
    | _ => none

/-- The key or the value of an entry of a block mapping. -/
def entryPart? (fuel : Nat) (handles : List (String × String)) (reading : Reading) :
    Option (Yaml × Reading) :=
  match fuel with
  | 0 => none
  | fuel + 1 =>
    if endsEntry reading.tokens then some (absent, reading)
    else node? fuel handles true true reading

/-- The items of a flow sequence up to its closing bracket; all but the first follow a comma. -/
def flowItems? (fuel : Nat) (handles : List (String × String)) (first : Bool)
    (reading : Reading) : Option (List Yaml × Reading) :=
  match fuel with
  | 0 => none
  | fuel + 1 => do
    let tokens ← afterSeparator? .flowSequenceEnd first reading.tokens
    match tokens with
    | .flowSequenceEnd :: rest => return ([], reading.onward rest)
    | .key :: rest =>
      let (item, reading) ← flowPair? fuel handles (reading.onward rest)
      let (items, reading) ← flowItems? fuel handles false reading
      return (item :: items, reading)
    | _ =>
      let (item, reading) ← node? fuel handles false false (reading.onward tokens)
      let (items, reading) ← flowItems? fuel handles false reading
      return (item :: items, reading)

/-- A key and its value as an item of a flow sequence. Where the key is absent, the token after it
is passed over. -/
def flowPair? (fuel : Nat) (handles : List (String × String)) (reading : Reading) :
    Option (Yaml × Reading) :=
  match fuel with
  | 0 => none
  | fuel + 1 => do
    let (key, reading) ←
      if endsFlowKey .flowSequenceEnd reading.tokens then
        some (absent, reading.onward (reading.tokens.drop 1))
      else node? fuel handles false false reading
    let (value, reading) ← flowValue? fuel handles .flowSequenceEnd reading
    return (mapping [(key, value)], reading)

/-- The entries of a flow mapping up to its closing brace; all but the first follow a comma. -/
def flowEntries? (fuel : Nat) (handles : List (String × String)) (first : Bool)
    (reading : Reading) : Option (List (Yaml × Yaml) × Reading) :=
  match fuel with
  | 0 => none
  | fuel + 1 => do
    let tokens ← afterSeparator? .flowMappingEnd first reading.tokens
    match tokens with
    | .flowMappingEnd :: rest => return ([], reading.onward rest)
    | .key :: rest =>
      let (key, reading) ←
        if endsFlowKey .flowMappingEnd rest then some (absent, reading.onward rest)
        else node? fuel handles false false (reading.onward rest)
      let (value, reading) ← flowValue? fuel handles .flowMappingEnd reading
      let (entries, reading) ← flowEntries? fuel handles false reading
      return ((key, value) :: entries, reading)
    | _ =>
      let (key, reading) ← node? fuel handles false false (reading.onward tokens)
      let (entries, reading) ← flowEntries? fuel handles false reading
      return ((key, absent) :: entries, reading)

def flowValue? (fuel : Nat) (handles : List (String × String)) (closing : Token)
    (reading : Reading) : Option (Yaml × Reading) :=
  match fuel with
  | 0 => none
  | fuel + 1 =>
    match reading.tokens with
    | .value :: rest =>
      if endsFlowValue closing rest then some (absent, reading.onward rest)
      else node? fuel handles false false (reading.onward rest)
    | _ => some (absent, reading)

end

/-- Takes in the directives of a document: the short names that it knows, and the tokens left. -/
def directives? (handles : List (String × String)) (versioned : Bool) :
    List Token → Option (List (String × String) × List Token)
  | .version major minor :: rest =>
    if !versioned && major == 1 && (minor == 1 || minor == 2) then directives? handles true rest
    else none
  | .handle name full :: rest =>
    if (handles.lookup name).isNone then directives? ((name, full) :: handles) versioned rest
    else none
  | tokens => some (handles ++ knownHandles, tokens)

def startsDocument : List Token → Bool
  | .version _ _ :: _ => true
  | .handle _ _ :: _ => true
  | .documentStart :: _ => true
  | _ => false

/-- Whether nothing is written between a marker and these tokens. -/
def endsDocument : List Token → Bool
  | [] => true
  | .documentEnd :: _ => true
  | tokens => startsDocument tokens

def document? (tokens : List Token) : Option (Yaml × List Token) :=
  let node (handles : List (String × String)) (tokens : List Token) : Option (Yaml × List Token) :=
    (node? (4 * tokens.length + 4) handles true false { tokens }).map fun (node, reading) =>
      (node, reading.tokens)
  if tokens.isEmpty then some (absent, [])
  else if startsDocument tokens then do
    match ← directives? [] false tokens with
    | (handles, .documentStart :: rest) =>
      if endsDocument rest then some (absent, rest) else node handles rest
    | _ => none
  else node knownHandles tokens

def ofTokens? (tokens : List Token) : Option Yaml := do
  let (node, rest) ← document? tokens
  guard (rest.all (· == .documentEnd))
  return node

def parse? (source : String) : Option Yaml := (tokens? source).bind ofTokens?

end BatchChanges.Yaml
