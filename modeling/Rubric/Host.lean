import Rubric.Encoding.Utf8
import Rubric.File.Device

/-! The machine that a run asks for its files. A tree of files answers as a machine does. -/
namespace Rubric

/-- What a run asks of a machine: to read a file, to make a directory and those above it, to write
and to remove a file, and for its standard input. -/
structure Host (m : Type → Type) where
  read : Text → m (Except FileFault Bytes)
  makeDirectories : Text → m (Except FileFault Unit)
  write : Text → Bytes → m (Except FileFault Unit)
  remove : Text → m Unit
  input : m (Except FileFault Bytes)

namespace Host

variable {m : Type → Type} [Monad m]

def readText (host : Host m) (path : Text) : m (Except FileFault Text) := do
  match ← host.read path with
  | .error fault => return .error fault
  | .ok bytes =>
    match Utf8.decode? bytes with
    | none => return .error .invalidData
    | some t => return .ok t

/-- Writes a file in a directory that is there. -/
def overwrite (host : Host m) (path : Text) (content : Bytes) : m (Except Error Unit) := do
  match ← host.write path content with
  | .error fault => return .error (.file path fault)
  | .ok () => return .ok ()

/-- Writes a file, and makes the directories that are missing above it. -/
def save (host : Host m) (path : Text) (content : Bytes) : m (Except Error Unit) := do
  match Path.parent? path with
  | some (c :: rest) =>
    match ← host.makeDirectories (c :: rest) with
    | .error fault => return .error (.file (c :: rest) fault)
    | .ok () => host.overwrite path content
  | _ => host.overwrite path content

end Host

/-- A tree of files on a device as a machine. -/
def FileTree.host (device : Device) : Host (StateM FileTree) where
  read path := fun tree => (tree.read path, tree)
  makeDirectories path := fun tree => tree.makeDirectories path
  write path content := fun tree => tree.write device path content
  remove path := fun tree => ((), tree.remove path)
  input := pure device.input

end Rubric
