import Rubric.Proofs.Toml.Names
import Rubric.Proofs.Toml.Overlay
import Rubric.Settings.Resolve

/-! Layers of settings, one by one and over each other. What a layer gives is told apart from how it
writes the report, since a table of the report covers an array below it with all that it gives. -/
namespace Rubric.Settings

/-- How a layer writes the settings of the report: under their names in a table, or in an array in
their order. -/
inductive Form where
  | named
  | listed
deriving DecidableEq, Repr

structure Given where
  layer : Layer
  form : Option Form
deriving DecidableEq, Repr

/-- A layer with this form of the report writes this value for it. -/
inductive Layer.Written (layer : Layer) : Option Form → Option Toml.Value → Prop where
  | absent (stderr : layer.stderr = none) (logFile : layer.logFile = none)
      (pretty : layer.pretty = none) : Written layer none none
  | named {inner : Toml.Table} (names : Fields.Ascending inner)
      (stderr : Fields.find? "stderr".toList inner = layer.stderr.map .boolean)
      (logFile : Fields.find? "log_file".toList inner = layer.logFile.map .string)
      (pretty : Fields.find? "pretty".toList inner = layer.pretty.map .boolean) :
      Written layer (some .named) (some (.table inner))
  | listed {stderr pretty : Bool} {logFile : Text} {more : List Toml.Value}
      (hStderr : layer.stderr = some stderr) (hLogFile : layer.logFile = some logFile)
      (hPretty : layer.pretty = some pretty) : Written layer (some .listed)
        (some (.array (.boolean stderr :: .string logFile :: .boolean pretty :: more)))

namespace Given

/-- A table that gives exactly this. -/
structure Fits (given : Given) (fields : Toml.Table) : Prop where
  rules : fields.find? "rules".toList =
    given.layer.rules.map fun texts => .array (texts.map .string)
  encoding : fields.find? "encoding".toList = given.layer.encoding.map .string
  report : given.layer.Written given.form (fields.find? "report".toList)

def nothing : Given :=
  ⟨.empty, none⟩

/-- What a layer gives together with those below it. Only where both have a table for the report do
the settings of the two reports join. -/
def laidOver (upper lower : Given) : Given :=
  let rules := upper.layer.rules.or lower.layer.rules
  let encoding := upper.layer.encoding.or lower.layer.encoding
  match upper.form, lower.form with
  | none, form => ⟨{ lower.layer with rules := rules, encoding := encoding }, form⟩
  | some .named, some .named =>
    ⟨{ rules := rules
       encoding := encoding
       stderr := upper.layer.stderr.or lower.layer.stderr
       logFile := upper.layer.logFile.or lower.layer.logFile
       pretty := upper.layer.pretty.or lower.layer.pretty }, some .named⟩
  | form, _ => ⟨{ upper.layer with rules := rules, encoding := encoding }, form⟩

variable {lower upper : Given} {t u : Toml.Table}

theorem fits_nothing : nothing.Fits [] where
  rules := rfl
  encoding := rfl
  report := .absent rfl rfl rfl

/-- Under a name with plain values in the upper table, the two tables leave the upper value, or the
lower one where there is none. -/
theorem find?_overlaidFields_plain {α : Type} {name : Text} {plain : α → Toml.Value}
    {above below : Option α} (hPlain : ∀ a fields, plain a ≠ .table fields)
    (hNames : Fields.Distinct u) (hUpper : Fields.find? name u = above.map plain)
    (hLower : Fields.find? name t = below.map plain) :
    Fields.find? name (Toml.Value.overlaidFields t u) = (above.or below).map plain := by
  rw [Toml.Value.overlaidFields_eq_laid]
  cases above with
  | none => rw [Fields.find?_laid_of_none hUpper, hLower, Option.none_or]
  | some a =>
      rw [Fields.find?_laid_of_some hNames hUpper, Option.some_or, Option.map_some]
      rw [Toml.Value.overlaid_of_upper_ne_table (hPlain a)]

theorem rules_laidOver :
    (upper.laidOver lower).layer.rules = upper.layer.rules.or lower.layer.rules := by
  rw [laidOver.eq_def]
  split <;> rfl

theorem encoding_laidOver :
    (upper.laidOver lower).layer.encoding = upper.layer.encoding.or lower.layer.encoding := by
  rw [laidOver.eq_def]
  split <;> rfl

/-- A layer without a report leaves that of the lower layers alone. -/
theorem written_laidOver_none {found : Option Toml.Value}
    (hLower : lower.layer.Written lower.form found) (hUpper : upper.layer.Written upper.form none) :
    (upper.laidOver lower).layer.Written (upper.laidOver lower).form found := by
  obtain ⟨above, form⟩ := upper
  cases hUpper with
  | absent =>
      obtain ⟨below, form⟩ := lower
      cases hLower with
      | absent hStderr hLogFile hPretty => exact .absent hStderr hLogFile hPretty
      | named hNames hStderr hLogFile hPretty => exact .named hNames hStderr hLogFile hPretty
      | listed hStderr hLogFile hPretty => exact .listed hStderr hLogFile hPretty

/-- A layer with a report writes what its value laid over the lower one makes. -/
theorem written_laidOver_some {found : Option Toml.Value} {v : Toml.Value}
    (hLower : lower.layer.Written lower.form found)
    (hUpper : upper.layer.Written upper.form (some v)) :
    (upper.laidOver lower).layer.Written (upper.laidOver lower).form
      (some (Toml.Value.overlaid found v)) := by
  obtain ⟨above, form⟩ := upper
  obtain ⟨below, lowerForm⟩ := lower
  cases hUpper with
  | named hNames hStderr hLogFile hPretty =>
      cases hLower with
      | absent =>
          rw [Toml.Value.overlaid_of_lower_ne_table (by simp)]
          exact .named hNames hStderr hLogFile hPretty
      | named hNamesBelow hStderrBelow hLogFileBelow hPrettyBelow =>
          rw [Toml.Value.overlaid]
          refine .named ?_ ?_ ?_ ?_
          · rw [Toml.Value.overlaidFields_eq_laid]
            exact hNamesBelow.laid
          · exact find?_overlaidFields_plain (by simp) hNames.distinct hStderr hStderrBelow
          · exact find?_overlaidFields_plain (by simp) hNames.distinct hLogFile hLogFileBelow
          · exact find?_overlaidFields_plain (by simp) hNames.distinct hPretty hPrettyBelow
      | listed =>
          rw [Toml.Value.overlaid_of_lower_ne_table (by simp)]
          exact .named hNames hStderr hLogFile hPretty
  | listed hStderr hLogFile hPretty =>
      rw [Toml.Value.overlaid_of_upper_ne_table (by simp)]
      cases lowerForm with
      | none => exact .listed hStderr hLogFile hPretty
      | some form => cases form <;> exact .listed hStderr hLogFile hPretty

/-- If two layers fit two tables then their merger fits the overlay, which is what one step of a
merge does. -/
theorem Fits.overlay (hLower : lower.Fits t) (hUpper : upper.Fits u) (hNames : Fields.Distinct u) :
    (upper.laidOver lower).Fits (t.overlay u) where
  rules := by
    rw [rules_laidOver]
    exact find?_overlaidFields_plain (by simp) hNames hUpper.rules hLower.rules
  encoding := by
    rw [encoding_laidOver]
    exact find?_overlaidFields_plain (by simp) hNames hUpper.encoding hLower.encoding
  report := by
    have hReport := hUpper.report
    rw [Toml.Table.overlay, Toml.Value.overlaidFields_eq_laid]
    cases hFound : Fields.find? "report".toList u with
    | none =>
        rw [hFound] at hReport
        rw [Fields.find?_laid_of_none hFound]
        exact written_laidOver_none hLower.report hReport
    | some v =>
        rw [hFound] at hReport
        rw [Fields.find?_laid_of_some hNames hFound]
        exact written_laidOver_some hLower.report hReport

end Given
end Rubric.Settings
