/-! # The command line

The arguments name a command, whose options and arguments follow. They are looked at from left to
right; the first one that does not fit, or that asks for help or for the version, decides.
-/

namespace BatchChanges.Cli

/-- What can be explained. -/
inductive Topic where
  | program
  | plan
  | config
  | configShow
  /-- The `help` of the program. -/
  | help
  /-- The `help` of `config`. -/
  | configHelp
deriving DecidableEq

/-- What the program is asked to do. -/
inductive Command where
  /-- Show the plan for the changeset that a file describes. -/
  | plan (file : String) (json : Bool)
  /-- Show the settings. -/
  | showConfig
  | help (topic : Topic)
  | version
deriving DecidableEq

namespace Command

/-- The option of a cluster such as `-Vh` that decides. -/
def ofCluster? (topic : Topic) (letters : List Char) : Option Command :=
  match letters with
  | 'h' :: _ => some (.help topic)
  | 'V' :: _ => if topic = .program then some .version else none
  | _ => none

/-- What an option asks for that stands for itself: help, or the version of the program. -/
def ofOption? (topic : Topic) (option : String) : Option Command :=
  if option = "--help" then some (.help topic)
  else if option = "--version" ∧ topic = .program then some .version
  else
    match option.toList with
    | '-' :: letters => ofCluster? topic letters
    | _ => none

def isOption (argument : String) : Bool :=
  match argument.toList with
  | '-' :: _ :: _ => true
  | _ => false

/-- The plan for a file, as soon as everything that is needed is known. -/
def planOf? (file : Option String) (json : Bool) : Option Command :=
  file.map fun file => .plan file json

def planFile? (file : Option String) (json : Bool) : List String → Option Command
  | [] => planOf? file json
  | argument :: rest =>
    if file.isNone ∧ argument ≠ "" then planFile? (some argument) json rest else none

def parsePlan? (file : Option String) (json : Bool) : List String → Option Command
  | [] => planOf? file json
  | argument :: rest =>
    if argument = "--" then planFile? file json rest
    else if argument = "--json" then if json then none else parsePlan? file true rest
    else if isOption argument then ofOption? .plan argument
    else if file.isNone ∧ argument ≠ "" then parsePlan? (some argument) json rest
    else none

def parseNothing? (topic : Topic) (command : Command) : List String → Option Command
  | [] => some command
  | ["--"] => some command
  | argument :: _ => if isOption argument then ofOption? topic argument else none

def parseConfigHelp? : List String → Option Command
  | [] => some (.help .config)
  | ["show"] => some (.help .configShow)
  | ["help"] => some (.help .configHelp)
  | _ => none

def parseConfig? : List String → Option Command
  | "show" :: rest => parseNothing? .configShow .showConfig rest
  | "help" :: rest => parseConfigHelp? rest
  | argument :: _ => ofOption? .config argument
  | [] => none

/-- The arguments of `help`, which are the names of commands, one below the other. -/
def parseHelp? : List String → Option Command
  | [] => some (.help .program)
  | ["plan"] => some (.help .plan)
  | ["help"] => some (.help .help)
  | "config" :: rest => parseConfigHelp? rest
  | _ => none

def parse? : List String → Option Command
  | "plan" :: rest => parsePlan? none false rest
  | "config" :: rest => parseConfig? rest
  | "help" :: rest => parseHelp? rest
  | argument :: _ => ofOption? .program argument
  | [] => none

end Command

namespace Topic

def text : Topic → String
  | program =>
    "Preview and configure batch-change reconciliation\n\n" ++
    "Usage: batches <COMMAND>\n\n" ++
    "Commands:\n" ++
    "  plan    Show the operations the reconciler would run for a changeset snapshot\n" ++
    "  config  Inspect reconciler configuration\n" ++
    "  help    Print this message or the help of the given subcommand(s)\n\n" ++
    "Options:\n" ++
    "  -h, --help     Print help\n" ++
    "  -V, --version  Print version\n"
  | plan =>
    "Show the operations the reconciler would run for a changeset snapshot\n\n" ++
    "Usage: batches plan [OPTIONS] <FILE>\n\n" ++
    "Arguments:\n" ++
    "  <FILE>  YAML document describing the changeset and its specs\n\n" ++
    "Options:\n" ++
    "      --json  Emit machine-readable JSON\n" ++
    "  -h, --help  Print help\n"
  | config =>
    "Inspect reconciler configuration\n\n" ++
    "Usage: batches config <COMMAND>\n\n" ++
    "Commands:\n" ++
    "  show  Print the effective configuration as YAML, defaults filled in\n" ++
    "  help  Print this message or the help of the given subcommand(s)\n\n" ++
    "Options:\n" ++
    "  -h, --help  Print help\n"
  | configShow =>
    "Print the effective configuration as YAML, defaults filled in\n\n" ++
    "Usage: batches config show\n\n" ++
    "Options:\n" ++
    "  -h, --help  Print help\n"
  | help => helpText "batches help"
  | configHelp => helpText "batches config help"
where
  helpText (command : String) : String :=
    "Print this message or the help of the given subcommand(s)\n\n" ++
    "Usage: " ++ command ++ " [COMMAND]...\n\n" ++
    "Arguments:\n" ++
    "  [COMMAND]...  Print help for the subcommand(s)\n"

end Topic

end BatchChanges.Cli
