import Rubric.Host
import Rubric.Settings.Resolve

/-! Loading the settings from the files of a machine. -/
namespace Rubric.Settings

/-- Where a run takes place: the environment variables, the home directory that the system has for
the user, and the working directory. -/
structure Surroundings where
  environment : List (Text × Text)
  home : Option Text
  current : Text

def fileName : Text :=
  "ruledit.toml".toList

/-- The home directory of the user. A variable that is empty counts as missing, and then the system
tells. -/
def Surroundings.home? (surroundings : Surroundings) : Option Text :=
  match surroundings.environment.lookup "HOME".toList with
  | none | some [] => surroundings.home
  | some home => some home

/-- The directory for settings of the user, if the user has a home directory. Another directory than
the one in there counts if its path starts from the root. -/
def userDirectory? (surroundings : Surroundings) : Option Text :=
  surroundings.home?.map fun home =>
    let directory := match surroundings.environment.lookup "XDG_CONFIG_HOME".toList with
      | some ('/' :: rest) => '/' :: rest
      | _ => Path.join home ".config".toList
    Path.join directory "ruledit".toList

/-- The files that are read where they exist: the user's, and that in the working directory over
it. -/
def standardPaths (surroundings : Surroundings) : List Text :=
  ((userDirectory? surroundings).toList ++ [surroundings.current]).map (Path.join · fileName)

variable {m : Type → Type} [Monad m]

def readExisting (host : Host m) : List Text → m (Except Error (List (Text × Text)))
  | [] => return .ok []
  | path :: rest => do
    match ← host.readText path with
    | .error .notFound => readExisting host rest
    | .error fault => return .error (.file path fault)
    | .ok t => return (← readExisting host rest).map ((path, t) :: ·)

/-- The text of a file that must exist, with its path, if there is a path. -/
def readGiven (host : Host m) : Option Text → m (Except Error (List (Text × Text)))
  | none => return .ok []
  | some path => do
    match ← host.readText path with
    | .error fault => return .error (.file path fault)
    | .ok t => return .ok [(path, t)]

/-- The settings of the standard files, of a given file over them and of the environment over
all. -/
def load (host : Host m) (surroundings : Surroundings) (given : Option Text) :
    m (Except Error Settings) := do
  match ← readExisting host (standardPaths surroundings) with
  | .error e => return .error e
  | .ok standard =>
    match ← readGiven host given with
    | .error e => return .error e
    | .ok files => return resolve ⟨standard ++ files, surroundings.environment, true⟩

end Rubric.Settings
