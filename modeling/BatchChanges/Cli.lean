import BatchChanges.Cli.Command
import BatchChanges.FileTree
import BatchChanges.Json.Printer
import BatchChanges.Preview
import BatchChanges.Settings.File

/-! # The program

The program shows the plan for a changeset that a file describes, as a table or in JSON, and the
settings that are in force. It depends on the files that it finds; what it prints and how it ends is
an `Outcome`.
-/

namespace BatchChanges.Cli

/-- What the program prints, and how it ends. -/
structure Outcome where
  exit : Nat
  stdout : String
  /-- Why the program failed. -/
  error : Option String := none
  /-- What brought that about. -/
  cause : Option String := none
deriving DecidableEq

namespace Outcome

def success (stdout : String) : Outcome := ⟨0, stdout, none, none⟩

def failure (error : String) (cause : Option String) : Outcome := ⟨1, "", some error, cause⟩

def usage : Outcome := ⟨2, "", none, none⟩

end Outcome

def padded (width : Nat) (text : String) : String :=
  text ++ String.ofList (List.replicate (width - text.length) ' ')

def rule (left middle right : String) (widths : List Nat) : String :=
  left ++
    middle.intercalate (widths.map fun width => String.ofList (List.replicate (width + 2) '─')) ++
    right ++ "\n"

def cells (widths : List Nat) (texts : List String) : String :=
  "│" ++ String.join ((widths.zip texts).map fun cell => " " ++ padded cell.1 cell.2 ++ " │") ++
    "\n"

def widths (rows : List (String × String)) : List Nat :=
  [rows.foldl (fun width row => max width row.1.length) 0,
    rows.foldl (fun width row => max width row.2.length) 0]

def table (head : String × String) (rows : List (String × String)) : String :=
  let widths := widths (head :: rows)
  let line (row : String × String) : String := cells widths [row.1, row.2]
  rule "╭" "┬" "╮" widths ++ line head ++ rule "├" "┼" "┤" widths ++
    String.join (rows.map line) ++ rule "╰" "┴" "╯" widths

def numbered (number : Nat) : List Operation → List (String × String)
  | [] => []
  | operation :: rest =>
    (String.ofList (Text.Decimal.digits number), operation.text) :: numbered (number + 1) rest

def planText (plan : Plan) : String :=
  let operations :=
    match plan.operations with
    | [] => "No operations: changeset is up to date\n"
    | operations => table ("#", "operation") (numbered 1 operations)
  match plan.delta.changedFields with
  | [] => operations
  | fields => operations ++ "changed: " ++ ", ".intercalate fields ++ "\n"

def showPlan (file : String) (json : Bool) (found : Option FileContent) : Outcome :=
  match found.bind FileContent.text? with
  | none => .failure ("failed to read " ++ file) none
  | some source =>
    match Preview.ofYaml? source with
    | none => .failure ("failed to parse " ++ file) none
    | some preview =>
      match preview.plan with
      | .error cause => .failure "failed to determine plan" (some cause.message)
      | .ok plan =>
        .success (if json then plan.toJson.pretty ++ "\n" else planText plan)

/-- Shows the settings that are in force. -/
def showConfig (home : String) (found : Option FileContent) : Outcome :=
  let path := Settings.pathAt home
  match Settings.load home found with
  | .error error => .failure ("failed to load config from " ++ path) (some error.message)
  | .ok settings => .success ("# " ++ path ++ "\n" ++ settings.toYaml)

def Command.file? (home : String) : Command → Option String
  | .plan file _ => some file
  | .showConfig => some (Settings.pathAt home)
  | .help _ => none
  | .version => none

/-- Runs a command, given what was found where its file should be. -/
def Command.run (home : String) (found : Option FileContent) : Command → Outcome
  | .plan file json => showPlan file json found
  | .showConfig => Cli.showConfig home found
  | .help topic => .success topic.text
  | .version => .success "batches 0.1.0\n"

def run (home : String) (find : String → Option FileContent) (arguments : List String) : Outcome :=
  match Command.parse? arguments with
  | none => .usage
  | some command => command.run home ((command.file? home).bind find)

end BatchChanges.Cli
