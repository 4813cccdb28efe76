import Rubric.CommandLine.Options
import Rubric.Run.Handle

/-! The program: its arguments select a run, and what comes of it goes to the standard streams. -/
namespace Rubric.CommandLine

/-- What the program leaves behind besides files. -/
structure Report where
  exitCode : Nat
  stdout : Bytes
  stderr : Text
  events : List Event

def success : Nat := 0

def failure : Nat := 1

/-- The exit code where the arguments make no sense. -/
def misuse : Nat := 2

/-- Lines of text. -/
def lines (texts : List Text) : Text :=
  texts.flatMap fun t => t ++ ['\n']

/-- The lines about an error. Every unknown key has a line of its own. -/
def complaint (e : Error) : Text :=
  let messages := match e with
    | .unknownKeys keys => keys.map UnknownKey.message
    | e => [e.message]
  lines (messages.map ("ruledit: ".toList ++ ·))

/-- The lines about the events that warn. -/
def warnings (events : List Event) : Text :=
  lines ((events.filter (·.severity = .warning)).map Event.warning)

def failed (e : Error) (events : List Event) : Report :=
  ⟨failure, [], complaint e, events⟩

/-- The lines about modifications. -/
def account (modifications : List Modification) : Text :=
  if modifications.isEmpty then lines ["No modifications applied.".toList]
  else lines (modifications.map Modification.describe)

/-- The bytes for the standard output. A document is shown in its own encoding. -/
def shownBytes (job : Job) (result : Result) : Except Error Bytes :=
  match result with
  | .applied (.text _) _ _ => do
    let encoding ← job.encoding?
    match encoding.encode? result.shown with
    | none => .error (.unencodable "stdout".toList encoding.name)
    | some bytes => .ok bytes
  | _ => .ok (Utf8.encode result.shown)

def succeeded (job : Job) (result : Result) (events : List Event) : Report :=
  match shownBytes job result with
  | .error e => failed e events
  | .ok stdout =>
    let stderr := match result with
      | .applied _ modifications none => if job.reports then account modifications else []
      | _ => []
    ⟨success, stdout, stderr, events⟩

variable {m : Type → Type} [Monad m]

def perform (host : Host m) (job : Job) (action : Action) : m Report := do
  let outcome ← job.handle host action
  match outcome.result with
  | .error e => return failed e outcome.events
  | .ok result => return succeeded job result outcome.events

def settingsFor (host : Host m) (surroundings : Settings.Surroundings) (options : Options) :
    m (Except Error (Option Settings)) := do
  if options.action.readsSettings then
    return (← Settings.load host surroundings options.settings).map some
  else
    return .ok none

def versionText : Text :=
  "ruledit 0.1.0\n".toList

def helpText : Text :=
  lines (["Apply prioritized rules to sectioned \x60key = value\x60 files",
    "",
    "Usage: ruledit [OPTIONS]",
    "",
    "Options:",
    "  -i, --input <INPUT>      Input file. Reads stdin when omitted",
    "  -o, --output <OUTPUT>    Output file. Writes to stdout when omitted",
    "  -r, --rules <FILE>       JSON rule file. Repeat to load several files in order",
    "      --log <FILE>         Write a JSON log of every modification to this file",
    "      --list-rules         List the loaded rules in execution order and exit",
    "      --settings-template  Print a commented ruledit.toml with every default and exit",
    "      --no-report          Do not report modifications on stderr",
    "      --encoding <LABEL>   Text encoding of the input and output, e.g. windows-1252 or " ++
      "shift_jis. Defaults to the settings' \x60encoding\x60, or utf-8",
    "      --settings <FILE>    Settings file read on top of the standard locations",
    "  -h, --help               Print help",
    "  -V, --version            Print version"].map String.toList)

def usageText : Text :=
  lines ["Usage: ruledit [OPTIONS]".toList, [], "For more information, try '--help'.".toList]

def run (host : Host m) (surroundings : Settings.Surroundings) (arguments : List Text) :
    m Report := do
  match read? arguments with
  | none => return ⟨misuse, [], usageText, []⟩
  | some .help => return ⟨success, Utf8.encode helpText, [], []⟩
  | some .version => return ⟨success, Utf8.encode versionText, [], []⟩
  | some (.run options) =>
    match ← settingsFor host surroundings options with
    | .error e => return failed e []
    | .ok settings =>
      let job : Job :=
        { ruleFiles := options.rules
          rules := []
          settings := settings
          encoding := options.encoding
          report := if options.noReport then some false else none }
      perform host job options.action

end Rubric.CommandLine
