/-! # YAML nodes

A node is a scalar, a sequence or a mapping, and may have a tag. A plain scalar, which has no quotes
around it, may stand for null, a truth value or a number; a quoted one is always text. Where nothing
is written there is an empty plain scalar.
-/

namespace BatchChanges

/-- A YAML node. -/
inductive Yaml where
  | plain (text : String)
  | quoted (text : String)
  | sequence (items : List Yaml)
  | mapping (entries : List (Yaml × Yaml))
  | tagged (tag : String) (node : Yaml)
deriving Inhabited

namespace Yaml

def absent : Yaml := plain ""

def scalarText? : Yaml → Option String
  | plain text => some text
  | quoted text => some text
  | tagged _ node => scalarText? node
  | _ => none

def withTag (node : Yaml) : Option String → Yaml
  | some tag => tagged tag node
  | none => node

end Yaml

end BatchChanges
