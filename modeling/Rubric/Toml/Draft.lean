import Rubric.Toml.Basic

/-! Tables in the making. Each statement of a TOML text adds to the table under construction, and
may only add what no earlier statement has fixed. -/
namespace Rubric.Toml

/-- How a table came to be: a header or a value of its own declared it, the header of a table inside
it implied it, or a dotted key did. -/
inductive Origin where
  | declared
  | implied
  | dotted
deriving DecidableEq, Repr

/-- What stands under a name in a table under construction: a value that is complete, a table, or
an array of tables with the latest one first. -/
inductive Entry where
  | value (v : Value)
  | table (origin : Origin) (entries : List (Text × Entry))
  | tables (elements : List (List (Text × Entry)))

/-- A table under construction. -/
abbrev Draft := Fields Entry

namespace Draft

/-- Changes the table at the end of a path. Tables that are missing on the way are made, with the
given origin, and an array stands for its latest table. A value is no table, and a dotted key does
not lead into a table that was declared. -/
def within (made : Origin) (change : Origin → Draft → Option Draft) (origin : Origin)
    (draft : Draft) : List Text → Option Draft
  | [] => change origin draft
  | name :: path =>
    match draft.find? name with
    | none => do
      let inner ← within made change made [] path
      some (draft ++ [(name, .table made inner)])
    | some (.value _) => none
    | some (.table found inner) =>
      if made == .dotted && found == .declared then none
      else do
        let inner ← within made change found inner path
        some (draft.set name (.table found inner))
    | some (.tables []) => none
    | some (.tables (latest :: earlier)) => do
      let latest ← within made change .declared latest path
      some (draft.set name (.tables (latest :: earlier)))

/-- Puts a value under a key, behind a path of dotted keys. The key is new, and the path ends in a
table that dotted keys made. -/
def assign (path : List Text) (key : Text) (v : Value) (origin : Origin) (draft : Draft) :
    Option Draft :=
  within .dotted (fun found inner =>
    if (found == .dotted) == path.isEmpty then none
    else if (inner.find? key).isSome then none
    else some (inner ++ [(key, .value v)])) origin draft path

/-- Declares a table. It is new, or was only implied so far. -/
def declare (path : List Text) (key : Text) (draft : Draft) : Option Draft :=
  within .implied (fun _ inner =>
    match inner.find? key with
    | none => some (inner ++ [(key, .table .declared [])])
    | some (.table .implied entries) =>
      some (inner.remove key ++ [(key, .table .declared entries)])
    | _ => none) .declared draft path

/-- Adds a table to an array of tables, which is made if it is missing. -/
def extend (path : List Text) (key : Text) (draft : Draft) : Option Draft :=
  within .implied (fun _ inner =>
    match inner.find? key with
    | none => some (inner ++ [(key, .tables [[]])])
    | some (.tables elements) => some (inner.set key (.tables ([] :: elements)))
    | _ => none) .declared draft path

mutual

def finishEntry : Entry → Value
  | .value v => v
  | .table _ entries => .table (finish entries)
  | .tables elements => .array (finishElements [] elements)

/-- The table that a draft has become. -/
def finish : List (Text × Entry) → List (Text × Value)
  | [] => []
  | (name, entry) :: rest => (name, finishEntry entry) :: finish rest

def finishElements (later : List Value) : List (List (Text × Entry)) → List Value
  | [] => later
  | entries :: earlier => finishElements (.table (finish entries) :: later) earlier

end

end Draft

/-- A statement: a value under a key behind a path of dotted keys, or the header of a table or of
a new table in an array. -/
inductive Statement where
  | assign (path : List Text) (key : Text) (v : Value)
  | table (path : List Text) (key : Text)
  | element (path : List Text) (key : Text)

/-- A draft with the path of the table whose statements are being read. -/
structure Progress where
  draft : Draft
  current : List Text

namespace Progress

def take (p : Progress) : Statement → Option Progress
  | .assign path key v => do
    let draft ← Draft.within .implied (Draft.assign path key v) .declared p.draft p.current
    some { p with draft := draft }
  | .table path key => do
    let draft ← p.draft.declare path key
    some ⟨draft, path ++ [key]⟩
  | .element path key => do
    let draft ← p.draft.extend path key
    some ⟨draft, path ++ [key]⟩

end Progress

/-- The table that statements make, in the order of writing, unless one of them is not allowed. -/
def Table.ofStatements? (statements : List Statement) : Option Table := do
  let p ← statements.foldlM Progress.take ⟨[], []⟩
  some (Draft.finish p.draft)

/-- The table between braces that pairs make, unless one of them is not allowed. -/
def Table.ofPairs? (pairs : List (List Text × Text × Value)) : Option Table := do
  let draft ← pairs.foldlM (fun draft (path, key, v) => Draft.assign path key v .declared draft) []
  some (Draft.finish draft)

end Rubric.Toml
