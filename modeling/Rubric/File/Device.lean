import Rubric.File.Tree

/-! What a machine does that its files do not tell: what comes from its standard input, and how far
a write gets. -/
namespace Rubric

/-- How a write ends before its time: the number of bytes that stand in the file by then, and the
fault. -/
structure Shortfall where
  written : Nat
  fault : FileFault
deriving DecidableEq, Repr

/-- The machine around a tree of files. A write of a content into an opened file may fall short. -/
structure Device where
  input : Except FileFault Bytes
  shortfall? : FileTree → Text → Bytes → Option Shortfall

namespace Device

/-- A machine with room for every file, and bytes on its standard input. -/
def plain (input : Bytes) : Device where
  input := .ok input
  shortfall? _ _ _ := none

/-- A file that can be opened to be written can be written to its end. -/
def WritesOpened (device : Device) : Prop :=
  ∀ tree path content, device.shortfall? tree path content = none

theorem writesOpened_plain (input : Bytes) : (plain input).WritesOpened :=
  fun _ _ _ => rfl

end Device

/-- Writes a file. It is opened first, which makes or empties it, so a write that falls short leaves
a beginning of the content. -/
def FileTree.write (tree : FileTree) (device : Device) (path : Text) (content : Bytes) :
    Except FileFault Unit × FileTree :=
  match tree.target path with
  | .error fault => (.error fault, tree)
  | .ok place =>
    match device.shortfall? tree path content with
    | none => (.ok (), tree.put place (.file content))
    | some short => (.error short.fault, tree.put place (.file (content.take short.written)))

end Rubric
