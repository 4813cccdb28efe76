import Rubric.Text.Quoted

/-! What can go wrong, by cause. -/
namespace Rubric

/-- Why a file or a standard stream could not be read or written. -/
inductive FileFault where
  | notFound
  | isDirectory
  | notDirectory
  | alreadyExists
  | invalidData
  | invalidName
  | permissionDenied
  | storageFull
  | brokenPipe
deriving DecidableEq, Repr

/-- A key in a settings file that is none of the settings. The line is zero when the key was not
found in the text. -/
structure UnknownKey where
  key : Text
  path : Text
  line : Nat
deriving DecidableEq, Repr

/-- A reason for a run to fail. -/
inductive Error where
  | invalidPattern (rule pattern : Text)
  | lineWithoutKey (line : Text)
  /-- The flag tells whether the file is JSON, but not the JSON of a rule file. -/
  | ruleFile (path : Text) (wellFormed : Bool)
  | invalidRule (path : Text) (index : Nat) (reason : Text)
  | noRules
  | unknownKeys (keys : List UnknownKey)
  | malformedSettings (path : Text)
  | file (path : Text) (fault : FileFault)
  /-- The action is what was tried with the standard streams. -/
  | streams (action : Text) (fault : FileFault)
  | unknownEncoding (label : Text)
  | undecodable (origin encoding : Text)
  | unencodable (target encoding : Text)
  | invalidValue (key : Text)
deriving DecidableEq, Repr

def FileFault.message : FileFault → Text
  | notFound => "No such file or directory (os error 2)".toList
  | isDirectory => "Is a directory (os error 21)".toList
  | notDirectory => "Not a directory (os error 20)".toList
  | alreadyExists => "File exists (os error 17)".toList
  | invalidData => "stream did not contain valid UTF-8".toList
  | invalidName => "file name contained an unexpected NUL byte".toList
  | permissionDenied => "Permission denied (os error 13)".toList
  | storageFull => "No space left on device (os error 28)".toList
  | brokenPipe => "Broken pipe (os error 32)".toList

def UnknownKey.message (k : UnknownKey) : Text :=
  "Unknown key '".toList ++ k.key ++ "' in ".toList ++ k.path ++ " (line ".toList ++
    Text.ofNat k.line ++ ")".toList

def Error.message : Error → Text
  | invalidPattern rule pattern =>
    "Rule '".toList ++ rule ++ "' has an invalid section pattern '".toList ++ pattern ++ "'".toList
  | lineWithoutKey line =>
    "Cannot update a value on a line without a key: ".toList ++ Text.quoted line
  | ruleFile path wellFormed =>
    "Failed to parse rule file ".toList ++ path ++
      (if wellFormed then ": not a list of rules" else ": malformed JSON").toList
  | invalidRule path index reason =>
    "Invalid rule #".toList ++ Text.ofNat index ++ " in ".toList ++ path ++ ": ".toList ++ reason
  | noRules =>
    "No rule files configured. Pass --rules or set `rules` in ruledit.toml".toList
  | unknownKeys _ => "Unknown keys in settings file".toList
  | malformedSettings path => "Failed to parse ".toList ++ path
  | file path fault => "Failed to read ".toList ++ path ++ ": ".toList ++ fault.message
  | streams action fault =>
    "Failed to ".toList ++ action ++ " standard streams: ".toList ++ fault.message
  | unknownEncoding label => "Unknown text encoding '".toList ++ label ++ "'".toList
  | undecodable origin encoding => origin ++ " is not valid ".toList ++ encoding ++ " text".toList
  | unencodable target encoding =>
    "Cannot write ".toList ++ target ++ " as ".toList ++ encoding ++
      ": it has characters the encoding lacks".toList
  | invalidValue key => "Invalid value for '".toList ++ key ++ "'".toList

end Rubric
