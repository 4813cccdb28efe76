import Rubric.Pattern.Reader
import Rubric.Pattern.Search
import Rubric.Rule.Basic

/-! When a rule matches a section. The pattern is looked for anywhere in the section's name,
and the preamble is never matched. -/
namespace Rubric.Rule

def matchesWith (rule : Rule) (pattern : Pattern.Expr) (s : Section) : Bool :=
  !s.isPreamble && pattern.found s.name && rule.conditions.all (·.holdsIn s)

/-- Whether a rule matches a section. There is no answer when its pattern does not compile. -/
def matches? (rule : Rule) (s : Section) : Option Bool :=
  (Pattern.compile? rule.pattern).map fun pattern => rule.matchesWith pattern s

end Rubric.Rule
