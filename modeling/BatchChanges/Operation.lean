import BatchChanges.Document

/-! # Operations against the code host

A plan is a list of operations that are run in its order. Two lists are `equivalent` if they hold
the same operations equally often; their text shows the order too.
-/

namespace BatchChanges

/-- One step that brings a pull request closer to what its spec asks for. -/
inductive Operation where
  /-- Push the commit to its branch. -/
  | push
  /-- Edit title, body and base branch. -/
  | update
  /-- Mark a draft as ready for review. -/
  | undraft
  /-- Open a pull request. -/
  | publish
  /-- Open a pull request as a draft. -/
  | publishDraft
  /-- Load the pull request. -/
  | sync
  | close
  | reopen
  /-- Wait for the code host to digest a push. -/
  | sleep
deriving DecidableEq

namespace Operation

def rank : Operation → Nat
  | push => 0
  | update => 1
  | undraft => 2
  | publish => 3
  | publishDraft => 4
  | sync => 5
  | close => 6
  | reopen => 7
  | sleep => 8

def text : Operation → String
  | push => "push"
  | update => "update"
  | undraft => "undraft"
  | publish => "publish"
  | publishDraft => "publish-draft"
  | sync => "sync"
  | close => "close"
  | reopen => "reopen"
  | sleep => "sleep"

def word : Operation → String
  | publishDraft => "publish_draft"
  | operation => operation.text

def ofWord? : String → Option Operation
  | "push" => some push
  | "update" => some update
  | "undraft" => some undraft
  | "publish" => some publish
  | "publish_draft" => some publishDraft
  | "sync" => some sync
  | "close" => some close
  | "reopen" => some reopen
  | "sleep" => some sleep
  | _ => none

def toJson (operation : Operation) : Json := .text operation.word

def read? {V : Type} [Document V] (value : V) : Option Operation :=
  (Document.text? value).bind ofWord?

/-- The operations of a list, one after the other. -/
def listText : List Operation → String
  | [] => "(none)"
  | operations => ", ".intercalate (operations.map text)

def sorted (operations : List Operation) : List Operation :=
  operations.mergeSort fun earlier later => decide (earlier.rank ≤ later.rank)

/-- Whether two lists hold the same operations, whatever their order. -/
def equivalent (left right : List Operation) : Bool := sorted left == sorted right

end Operation

end BatchChanges
