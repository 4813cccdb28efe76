import Rubric.Settings.Basic

/-! A settings file to start from. -/
namespace Rubric.Settings

/-- The lines of the template. Every setting is there with its default, behind a number sign. -/
def templateLines : List String :=
  ["# Rule files applied when none are given on the command line, in order.",
    "#",
    "# Default value: []",
    "#rules = []",
    "",
    "# Text encoding of input and output documents, as a label such as",
    "# \"windows-1252\" or \"shift_jis\".",
    "#",
    "# Default value: \"utf-8\"",
    "#encoding = \"utf-8\"",
    "",
    "# How modifications are reported.",
    "[report]",
    "# Print one line per modification on stderr when no JSON log is written.",
    "#",
    "# Default value: true",
    "#stderr = true",
    "",
    "# Write the modification log as JSON to this file.",
    "#log_file =",
    "",
    "# Indent the JSON log.",
    "#",
    "# Default value: true",
    "#pretty = true"]

/-- A settings file that changes nothing and names every setting. -/
def template : Text :=
  templateLines.flatMap fun line => line.toList ++ ['\n']

end Rubric.Settings
