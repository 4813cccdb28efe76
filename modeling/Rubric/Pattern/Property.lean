import Rubric.Text.Basic
import Rubric.Unicode.Class
import Rubric.Unicode.Script
import Rubric.Unicode.Boundary
import Rubric.Unicode.Age

/-! Classes of characters asked for by name. Names are read loosely: letter case, blanks,
hyphens and underscores do not matter, nor does a leading `is`. -/
namespace Rubric.Pattern

open Rubric.Unicode

/-- A class asked for by the value of a property, or by one name alone. -/
structure Query where
  property : Option Text
  value : Text
deriving DecidableEq, Repr

/-- Small letters without the separators that loose names ignore. -/
def squeeze (name : Text) : Text :=
  (name.filter fun c => c.toNat < 0x80 && c != ' ' && c != '_' && c != '-').map Char.toLower

/-- The loose form of a name. The short name of a property that itself starts with `is` is kept
whole. -/
def looseName : Text → Text
  | a :: b :: rest =>
    if a.toLower == 'i' && b.toLower == 's' then
      if squeeze rest == ['c'] then "isc".toList else squeeze rest
    else squeeze (a :: b :: rest)
  | name => squeeze name

namespace Query

/-- A general category, a group of categories, or one of three sets named like categories. -/
def category? (name : Text) : Option CharSet :=
  if name == "any".toList then some .all
  else if name == "assigned".toList then some (categories "cn").compl
  else if name == "ascii".toList then some (.range 0 0x7F)
  else (find? categoryRows name).orElse fun _ =>
    (categoryGroups.find? fun group => (words group.1).contains name).map fun group =>
      categories group.2

def age? (name : Text) : Option CharSet :=
  let older := ageRows.takeWhile (!·.hasName name)
  (ageRows.find? (·.hasName name)).map fun row =>
    CharSet.ofRanges ((row :: older).flatMap fun r => r.set.ranges)

def extension? (name : Text) : Option CharSet :=
  (find? scriptExtensionRows name).orElse fun _ => find? scriptRows name

/-- The class one name stands for. Three short names belong to categories although properties
without classes have them too. -/
def named? (name : Text) : Option CharSet :=
  let binary :=
    if ["cf", "sc", "lc"].any (·.toList == name) then none else find? propertyRows name
  (binary.orElse fun _ => category? name).orElse fun _ => find? scriptRows name

def valued? (property value : Text) : Option CharSet :=
  match String.ofList property with
  | "gc" | "generalcategory" => category? value
  | "sc" | "script" => find? scriptRows value
  | "scx" | "scriptextensions" => extension? value
  | "age" => age? value
  | "gcb" | "graphemeclusterbreak" => find? graphemeBreakRows value
  | "wb" | "wordbreak" => find? wordBreakRows value
  | "sb" | "sentencebreak" => find? sentenceBreakRows value
  | _ => none

def set? (q : Query) : Option CharSet :=
  match q.property with
  | none => named? (looseName q.value)
  | some property => valued? (looseName property) (looseName q.value)

end Query

end Rubric.Pattern
