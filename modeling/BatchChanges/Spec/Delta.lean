import BatchChanges.Spec.Codec

/-! # What changed between two branch pushes

A pull request is brought in line by comparing the branch push it was made from with the one that
applies now. Title, body and base branch are edited on the code host; anything in the commit needs
a new push; and a draft that is now wanted published is marked as ready.
-/

namespace BatchChanges

/-- The parts of a branch push that changed. -/
structure SpecDelta where
  title : Bool := false
  body : Bool := false
  baseRef : Bool := false
  diff : Bool := false
  commitMessage : Bool := false
  authorName : Bool := false
  authorEmail : Bool := false
  /-- A draft is to be published. -/
  undraft : Bool := false
deriving DecidableEq

namespace SpecDelta

/-- Nothing changed. -/
def none : SpecDelta := {}

def compare (previous current : BranchPush) : SpecDelta where
  title := previous.title != current.title
  body := previous.body != current.body
  baseRef := previous.baseRef != current.baseRef
  diff := previous.commit.diff != current.commit.diff
  commitMessage := previous.commit.message != current.commit.message
  authorName := previous.commit.authorName != current.commit.authorName
  authorEmail := previous.commit.authorEmail != current.commit.authorEmail
  undraft := previous.published.isDraft && current.published.isPublished

def needsUpdate (delta : SpecDelta) : Bool := delta.title || delta.body || delta.baseRef

def needsPush (delta : SpecDelta) : Bool :=
  delta.diff || delta.commitMessage || delta.authorName || delta.authorEmail

def isEmpty (delta : SpecDelta) : Bool :=
  !delta.needsUpdate && !delta.needsPush && !delta.undraft

def parts (delta : SpecDelta) : List (String × Bool) :=
  [("title", delta.title), ("body", delta.body), ("base_ref", delta.baseRef),
    ("diff", delta.diff), ("commit_message", delta.commitMessage),
    ("author_name", delta.authorName), ("author_email", delta.authorEmail),
    ("undraft", delta.undraft)]

def changedFields (delta : SpecDelta) : List String :=
  (delta.parts.filter (·.2)).map (·.1)

def toJson (delta : SpecDelta) : Json :=
  .object [("title_changed", .bool delta.title), ("body_changed", .bool delta.body),
    ("base_ref_changed", .bool delta.baseRef), ("diff_changed", .bool delta.diff),
    ("commit_message_changed", .bool delta.commitMessage),
    ("author_name_changed", .bool delta.authorName),
    ("author_email_changed", .bool delta.authorEmail), ("undraft", .bool delta.undraft)]

end SpecDelta

end BatchChanges
