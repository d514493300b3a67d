import BatchChanges.Changeset.Codec
import BatchChanges.Scenario.Step
import BatchChanges.World

/-! # The simulated code host

The code host keeps a record of every call. It takes the next item of its script, if there is one,
and follows it: time passes, other steps are made, the call fails. A call that does not fail is
answered as a code host would: a created pull request gets the next number, and all others are as
they should be after the call, except where the script item says otherwise.
-/

namespace BatchChanges.Scenario

/-- The state of the simulation besides store and clock. -/
structure Scene where
  settings : Settings := {}
  /-- The repositories that only site admins can see. -/
  hidden : IdSet .repo := ∅
  script : List ScriptItem := []
  /-- The number of pull requests that were created. -/
  created : Nat := 0
  /-- The calls to the code host, with what was done meanwhile. -/
  calls : List (List (String × Json)) := []
  /-- Claimed changesets and their leases, by name. -/
  claims : List (String × Changeset × Lease) := []

instance : Inhabited Scene := ⟨{}⟩

namespace Scene

def visibility (scene : Scene) : Visibility := fun actor repo =>
  actor.siteAdmin || !scene.hidden.contains repo.id

def keep (scene : Scene) (name : String) (claim : Changeset × Lease) : Scene :=
  { scene with claims := (name, claim) :: scene.claims.filter fun entry => entry.1 != name }

end Scene

abbrev Runner := List Step → World Scene → List Json × World Scene

def pushRecord (repo : Repo) (push : BranchPush) : List (String × Json) :=
  [("call", .text "push"), ("repo", .text repo.name), ("head_ref", .text push.headRef),
    ("diff", .text push.commit.diff)]

def requestRecord (repo : Repo) : HostRequest → List (String × Json)
  | .create push draft =>
    [("call", .text "create"), ("repo", .text repo.name), ("title", .text push.title),
      ("draft", .bool draft)]
  | .update externalId push =>
    about "update" externalId ++
      [("title", .text push.title), ("body", .text push.body), ("base_ref", .text push.baseRef)]
  | .undraft externalId => about "undraft" externalId
  | .close externalId => about "close" externalId
  | .reopen externalId => about "reopen" externalId
  | .load externalId => about "load" externalId
where
  about (call externalId : String) : List (String × Json) :=
    [("call", .text call), ("repo", .text repo.name), ("external_id", .text externalId)]

def standardView (request : HostRequest) (created : Nat) (now : Time) : PullRequest :=
  match request with
  | .create push draft =>
    ⟨String.ofList (Text.Decimal.digits (101 + created)), push.headRef,
      if draft then .draft else .opened, push.title, none, now⟩
  | .update externalId push => ⟨externalId, push.headRef, .opened, push.title, none, now⟩
  | .undraft externalId => seen externalId .opened
  | .close externalId => seen externalId .closed
  | .reopen externalId => seen externalId .opened
  | .load externalId => seen externalId .opened
where
  seen (externalId : String) (state : HostState) : PullRequest :=
    ⟨externalId, "refs/heads/host", state, "host title", none, now⟩

def Reply.view (reply : Reply) (standard : PullRequest) : PullRequest where
  externalId := reply.externalId.getD standard.externalId
  branch := reply.branch.getD standard.branch
  state := reply.state.getD standard.state
  title := reply.title.getD standard.title
  diffStat := reply.diffStat <|> standard.diffStat
  updatedAt := reply.updatedAt.getD standard.updatedAt

/-- Records a call and takes the next script item; the place of the call in the record comes
first. -/
def takeItem {ε : Type} (record : List (String × Json)) : Action Scene ε (Nat × ScriptItem) :=
  fun world =>
    let scene := world.host
    (.ok (scene.calls.length, scene.script.headD .plain),
      { world with host := { scene with
          calls := scene.calls ++ [record], script := scene.script.drop 1 } })

/-- Makes steps during a call and adds their results to the record of the call. -/
def meanwhile {ε : Type} (runner : Runner) (place : Nat) (steps : List Step) :
    Action Scene ε Unit := fun world =>
  let (results, world) := runner steps world
  let calls := world.host.calls.modify place (· ++ [("during", .array results)])
  (.ok (), { world with host := { world.host with calls } })

def follow (runner : Runner) (record : List (String × Json)) : Action Scene HostError Reply := do
  let (place, .mk wait steps failure reply) ← takeItem record
  if let some duration := wait then Action.advance duration
  if let some steps := steps then meanwhile runner place steps
  match failure with
  | some error => throw (.failed error)
  | none => return reply

/-- The simulated code host; the runner makes the steps in script items. -/
def host (runner : Runner) : Host Scene where
  push repo branch := do
    let _ ← follow runner (pushRecord repo branch)
    return ()
  request repo asked := do
    let reply ← follow runner (requestRecord repo asked)
    let view := reply.view (standardView asked (← Action.look (·.host.created)) (← Action.now))
    if let .create _ _ := asked then
      Action.change fun world =>
        { world with host := { world.host with created := world.host.created + 1 } }
    return view

end BatchChanges.Scenario
