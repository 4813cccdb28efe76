import Rubric.Run.Basic

/-! The arguments of the program. -/
namespace Rubric.CommandLine

/-- The options that take a value. -/
inductive Key where
  | input
  | output
  | rules
  | log
  | encoding
  | settings
deriving DecidableEq, Repr

/-- The options that take none. -/
inductive Flag where
  | listRules
  | settingsTemplate
  | noReport
  | help
  | version
deriving DecidableEq, Repr

def longKey? (name : Text) : Option Key :=
  match String.ofList name with
  | "input" => some .input
  | "output" => some .output
  | "rules" => some .rules
  | "log" => some .log
  | "encoding" => some .encoding
  | "settings" => some .settings
  | _ => none

def longFlag? (name : Text) : Option Flag :=
  match String.ofList name with
  | "list-rules" => some .listRules
  | "settings-template" => some .settingsTemplate
  | "no-report" => some .noReport
  | "help" => some .help
  | "version" => some .version
  | _ => none

def shortKey? : Char → Option Key
  | 'i' => some .input
  | 'o' => some .output
  | 'r' => some .rules
  | _ => none

def shortFlag? : Char → Option Flag
  | 'h' => some .help
  | 'V' => some .version
  | _ => none

/-- What the arguments so far give. -/
structure Given where
  input : Option Text
  output : Option Text
  rules : List Text
  log : Option Text
  encoding : Option Text
  settings : Option Text
  listRules : Bool
  settingsTemplate : Bool
  noReport : Bool

structure Options where
  rules : List Text
  noReport : Bool
  encoding : Option Text
  settings : Option Text
  action : Action
deriving DecidableEq, Repr

/-- What the arguments ask for. -/
inductive Request where
  | run (options : Options)
  | help
  | version
deriving DecidableEq, Repr

namespace Given

def none : Given :=
  ⟨.none, .none, [], .none, .none, .none, false, false, false⟩

/-- Takes a value for an option. Rule files may be given repeatedly and other options once, and
paths are not empty. -/
def take (given : Given) (key : Key) (value : Text) : Option Given :=
  if key ≠ .encoding && value.isEmpty then .none
  else
    match key with
    | .rules => some { given with rules := given.rules ++ [value] }
    | .input =>
      if given.input.isSome then .none else some { given with input := some value }
    | .output =>
      if given.output.isSome then .none else some { given with output := some value }
    | .log =>
      if given.log.isSome then .none else some { given with log := some value }
    | .encoding =>
      if given.encoding.isSome then .none else some { given with encoding := some value }
    | .settings =>
      if given.settings.isSome then .none else some { given with settings := some value }

def namesDocument (given : Given) : Bool :=
  given.input.isSome || given.output.isSome || given.log.isSome

/-- The action that is asked for, unless it conflicts with what else is given. -/
def action? (given : Given) : Option Action :=
  if given.settingsTemplate then
    if given.listRules || given.namesDocument then .none else some .settingsTemplate
  else if given.listRules then
    if given.namesDocument then .none else some .listRules
  else some (.apply given.input given.output given.log)

def finish (given : Given) : Option Request :=
  given.action?.map fun action =>
    .run ⟨given.rules, given.noReport, given.encoding, given.settings, action⟩

end Given

/-- Whether an argument is taken for an option. A lone dash is not. -/
def looksLikeOption : Text → Bool
  | '-' :: _ :: _ => true
  | _ => false

/-- Reads arguments behind those that have given something. Help and version are granted at
once. -/
def readFrom (given : Given) : List Text → Option Request
  | [] => given.finish
  | ['-', '-'] :: rest => if rest.isEmpty then given.finish else none
  | ('-' :: '-' :: body) :: rest =>
    let (name, attached) := match Text.splitFirst '=' body with
      | some (name, value) => (name, some value)
      | none => (body, none)
    match longKey? name, attached with
    | some key, some value => (given.take key value).bind (readFrom · rest)
    | some key, none =>
      match rest with
      | value :: rest =>
        if looksLikeOption value then none else (given.take key value).bind (readFrom · rest)
      | [] => none
    | none, some _ => none
    | none, none =>
      match longFlag? name with
      | some .help => some .help
      | some .version => some .version
      | some .listRules =>
        if given.listRules then none else readFrom { given with listRules := true } rest
      | some .settingsTemplate =>
        if given.settingsTemplate then none
        else readFrom { given with settingsTemplate := true } rest
      | some .noReport =>
        if given.noReport then none else readFrom { given with noReport := true } rest
      | none => none
  | ('-' :: c :: body) :: rest =>
    match shortKey? c, body with
    | some key, '=' :: value => (given.take key value).bind (readFrom · rest)
    | some key, b :: body => (given.take key (b :: body)).bind (readFrom · rest)
    | some key, [] =>
      match rest with
      | value :: rest =>
        if looksLikeOption value then none else (given.take key value).bind (readFrom · rest)
      | [] => none
    | none, _ =>
      match shortFlag? c with
      | some .help => some .help
      | some .version => some .version
      | _ => none
  | _ :: _ => none

/-- Reads the arguments, without the name of the program. -/
def read? (arguments : List Text) : Option Request :=
  readFrom .none arguments

end Rubric.CommandLine
