import Rubric.CommandLine.Program

/-! The program on a machine with files, streams and environment variables of its own. -/
namespace Rubric

/-- The fault behind an error, if runs know it. Where one kind of error stands for several faults,
its code tells them apart. -/
def FileFault.ofError? : IO.Error → Option FileFault
  | .noFileOrDirectory .. => some .notFound
  | .alreadyExists .. => some .alreadyExists
  | .inappropriateType _ code _ => some (if hasCode code 21 then .isDirectory else .notDirectory)
  | .invalidArgument .. => some .invalidName
  | .permissionDenied _ code _ => if hasCode code 13 then some .permissionDenied else none
  | .resourceExhausted _ code _ => if hasCode code 28 then some .storageFull else none
  | .resourceVanished code _ => if hasCode code 32 then some .brokenPipe else none
  | _ => none
where
  /-- Codes come with either sign. -/
  hasCode (code number : UInt32) : Bool :=
    code = number || code = 0 - number

/-- The outcome of an action on files. Errors that runs do not know end the program. -/
def attempt {α : Type} (action : IO α) : IO (Except FileFault α) := do
  try
    return .ok (← action)
  catch e =>
    match FileFault.ofError? e with
    | some fault => return .error fault
    | none => throw e

def machine : Host IO where
  read path := attempt do return (← IO.FS.readBinFile (String.ofList path)).toList
  makeDirectories path := attempt (IO.FS.createDirAll (String.ofList path))
  write path content := attempt do
    let file ← IO.FS.Handle.mk (String.ofList path) .write
    file.write (ByteArray.mk content.toArray)
    file.flush
  remove path := do
    discard (attempt (IO.FS.removeFile (String.ofList path)))
  input := attempt do return (← (← IO.getStdin).readBinToEnd).toList

/-- The variables of a block in which each stands as its name and its value, with a sign between
them, and ends in a zero byte. -/
def variablesOf (block : Bytes) : List (Text × Text) :=
  (Text.splitAll '\x00' ((Utf8.decode? block).getD [])).filterMap (Text.splitFirst '=')

/-- The variable that says what is told on the way. -/
def levelVariable : Text :=
  "RULEDIT_LOG".toList

def warningLevels : List Text :=
  ["warn", "info", "debug", "trace"].map String.toList

/-- Whether warnings are shown: if the variable is not set, or names one of their levels. -/
def showsWarnings (environment : List (Text × Text)) : Bool :=
  match environment.lookup levelVariable with
  | none => true
  | some value => warningLevels.any fun level => Text.occursIn level (value.map Char.toLower)

/-- The home directory of a user in the table of users, whose rows have the number of the user in
the third and the directory in the sixth of their fields. -/
def homeOf? (users : Text) (number : Text) : Option Text :=
  ((Text.splitAll '\n' users).map (Text.splitAll ':')).findSome? fun fields =>
    if fields[2]? = some number then fields[5]? else none

/-- The number of the user who runs the program, by the state that the system tells of it. -/
def userNumber? (state : Text) : Option Text :=
  (Text.splitAll '\n' state).findSome? fun row =>
    match Text.splitAll '\t' row with
    | name :: number :: _ => if name = "Uid:".toList then some number else none
    | _ => none

def systemText (path : String) : IO Text := do
  let bytes ← attempt (IO.FS.readBinFile path)
  return (Utf8.decode? (bytes.toOption.getD .empty).toList).getD []

/-- Where the program takes place. -/
def surroundings : IO Settings.Surroundings := do
  let environment ← attempt do return variablesOf (← IO.FS.readBinFile "/proc/self/environ").toList
  let number? := userNumber? (← systemText "/proc/self/status")
  return {
    environment := environment.toOption.getD []
    home := number?.bind (homeOf? (← systemText "/etc/passwd"))
    current := (← IO.currentDir).toString.toList
  }

def putOut (bytes : Bytes) : IO (Except FileFault Unit) := attempt do
  let stdout ← IO.getStdout
  stdout.write (ByteArray.mk bytes.toArray)
  stdout.flush

end Rubric

open Rubric in
def main (arguments : List String) : IO UInt32 := do
  let place ← surroundings
  let report ← CommandLine.run machine place (arguments.map String.toList)
  let warnings :=
    if showsWarnings place.environment then CommandLine.warnings report.events else []
  let report := match ← putOut report.stdout with
    | .error fault => CommandLine.failed (.streams "write".toList fault) report.events
    | .ok () => report
  (← IO.getStderr).putStr (String.ofList (warnings ++ report.stderr))
  return UInt32.ofNat report.exitCode
