import Mathlib.Logic.Function.Basic
import Rubric.File.Tree

/-! What changes in a tree. Directories stay, so a path keeps leading to the place to which it led.
The files are seen as the function from places to contents, in which a write or a removal changes
the value at one place. -/
namespace Rubric

def FileNode.content? : FileNode → Option Bytes
  | file content => some content
  | directory => none

theorem Text.splitAll_ne_nil {mark : Char} {t : Text} : splitAll mark t ≠ [] := by
  fun_cases splitAll mark t <;> simp

/-- A text that does not end in a mark has something behind its last mark. -/
theorem Text.getLast?_splitAll {mark : Char} {t : Text} (hText : t ≠ [])
    (hEnd : t.getLast? ≠ some mark) : (splitAll mark t).getLast? ≠ some [] := by
  fun_induction splitAll mark t with
  | case1 => exact absurd rfl hText
  | case2 rest ih =>
      cases rest with
      | nil => exact absurd rfl hEnd
      | cons d rest =>
          have hSome : splitAll mark (d :: rest) ≠ [] := splitAll_ne_nil
          obtain ⟨piece, pieces, hPieces⟩ := List.exists_cons_of_ne_nil hSome
          rw [hPieces, List.getLast?_cons_cons, ← hPieces]
          exact ih (by simp) (by simpa using hEnd)
  | case3 c rest hc hNil ih => exact absurd hNil splitAll_ne_nil
  | case4 c rest hc piece pieces hRest ih =>
      cases rest with
      | nil =>
          obtain ⟨rfl, rfl⟩ := List.cons.inj hRest
          simp
      | cons d rest =>
          have hLast := ih (by simp) (by simpa using hEnd)
          cases pieces with
          | nil => simp
          | cons => simpa [hRest] using hLast

/-- What is left of a path when some names are dropped from its end. -/
inductive Path.Above : Text → Text → Prop
  | parent {path parent : Text} (hParent : Path.parent? path = some parent) : Above path parent
  | step {path parent above : Text} (hParent : Path.parent? path = some parent)
      (hAbove : Above parent above) : Above path above

/-- The paths above the parent of a path, and the parent itself, are above the path. -/
theorem Path.above_of_parent? {path parent above : Text} (hParent : parent? path = some parent)
    (h : above = parent ∨ Above parent above) : Above path above := by
  rcases h with rfl | hAbove
  · exact .parent hParent
  · exact .step hParent hAbove

namespace FileTree

variable {tree before middle after : FileTree} {place other : Place} {path name : Text}
  {content : Bytes} {node : FileNode} {among : Text → Prop}

/-- The content of the file at a place, if one stands there. -/
def file? (tree : FileTree) (place : Place) : Option Bytes :=
  (tree.node? place).bind FileNode.content?

/-- The directories of one tree are directories of the other, and both have the same working
directory. -/
structure Extends (before after : FileTree) : Prop where
  current : after.current = before.current
  directory : ∀ place, before.node? place = some .directory → after.node? place = some .directory

/-- One tree has the directories of the other and the same files. -/
structure Widens (before after : FileTree) : Prop extends Extends before after where
  files : after.file? = before.file?

/-- One tree is the other with directories where nothing stood before, each of them where one of
some paths leads. -/
structure Deepens (among : Text → Prop) (before after : FileTree) : Prop
    extends Extends before after where
  opened : ∀ place, after.node? place = before.node? place ∨
    before.node? place = none ∧ after.node? place = some .directory ∧
      ∃ path, among path ∧ after.locateBare path = .ok place

theorem Extends.refl (tree : FileTree) : Extends tree tree :=
  ⟨rfl, fun _ h => h⟩

theorem Extends.trans (h : Extends before middle) (h' : Extends middle after) :
    Extends before after :=
  ⟨h'.current.trans h.current, fun place hPlace => h'.directory place (h.directory place hPlace)⟩

theorem Deepens.refl (tree : FileTree) : Deepens among tree tree :=
  ⟨.refl tree, fun _ => .inl rfl⟩

theorem Deepens.mono {more : Text → Prop} (h : Deepens among before after)
    (hMore : ∀ path, among path → more path) : Deepens more before after where
  toExtends := h.toExtends
  opened place := by
    rcases h.opened place with hSame | ⟨hFree, hMade, path, hPath, hPlace⟩
    · exact .inl hSame
    · exact .inr ⟨hFree, hMade, path, hMore path hPath, hPlace⟩

/-- Directories that are made where nothing stood leave all files as they are. -/
theorem Deepens.widens (h : Deepens among before after) : Widens before after where
  toExtends := h.toExtends
  files := by
    funext place
    rcases h.opened place with hSame | ⟨hFree, hMade, -⟩
    · rw [file?, file?, hSame]
    · simp [file?, hFree, hMade, FileNode.content?]

/-- A file is at a place just when its content is found there. -/
theorem node?_eq_file_iff : tree.node? place = some (.file content) ↔
    tree.file? place = some content := by
  rw [file?]
  cases tree.node? place with
  | none => simp
  | some node => cases node <;> simp [FileNode.content?]

/-- The root is a directory, so nothing else stands there. -/
theorem ne_nil_of_node? (h : tree.node? place ≠ some .directory) : place ≠ [] := by
  rintro rfl
  exact h rfl

/-! Putting and taking away. -/

theorem lookup_filter_ne (nodes : List (Place × FileNode)) (place other : Place) :
    (nodes.filter (·.1 ≠ place)).lookup other =
      if other = place then none else nodes.lookup other := by
  induction nodes with
  | nil => simp
  | cons entry nodes ih =>
      obtain ⟨key, node⟩ := entry
      by_cases hOther : other = key
      · subst hOther
        by_cases hKey : other = place
        · rw [List.filter_cons_of_neg (by simpa using hKey), ih, if_pos hKey, if_pos hKey]
        · rw [List.filter_cons_of_pos (by simpa using hKey), if_neg hKey, List.lookup_cons_self,
            List.lookup_cons_self]
      · have hSkip : (other == key) = false := beq_eq_false_iff_ne.mpr hOther
        by_cases hKey : key = place
        · rw [List.filter_cons_of_neg (by simpa using hKey), ih, List.lookup_cons, hSkip]
        · rw [List.filter_cons_of_pos (by simpa using hKey), List.lookup_cons, hSkip, ih,
            List.lookup_cons, hSkip]

/-- Putting a node changes the tree at its place only. -/
theorem node?_put (h : place ≠ []) :
    (tree.put place node).node? = Function.update tree.node? place (some node) := by
  funext other
  by_cases hOther : other = place
  · subst hOther
    simp [put, node?, h]
  · have hLookup := lookup_filter_ne tree.nodes place other
    rw [if_neg hOther] at hLookup
    rw [Function.update_of_ne hOther]
    simp only [put, node?, List.lookup_cons, beq_eq_false_iff_ne.mpr hOther, hLookup]

theorem node?_erase (h : place ≠ []) :
    (tree.erase place).node? = Function.update tree.node? place none := by
  funext other
  have hLookup := lookup_filter_ne tree.nodes place other
  by_cases hOther : other = place
  · subst hOther
    simpa [erase, node?, h] using hLookup
  · rw [if_neg hOther] at hLookup
    rw [Function.update_of_ne hOther]
    simp only [erase, node?, hLookup]

/-- What changes at one place of the tree changes the files at that place only. -/
theorem file?_of_node?_update {found : Option FileNode}
    (h : after.node? = Function.update before.node? place found) :
    after.file? = Function.update before.file? place (found.bind FileNode.content?) := by
  have hFiles (tree : FileTree) : tree.file? = (·.bind FileNode.content?) ∘ tree.node? := rfl
  rw [hFiles, h, Function.comp_update, ← hFiles]

theorem file?_put (h : place ≠ []) :
    (tree.put place node).file? = Function.update tree.file? place node.content? :=
  file?_of_node?_update (node?_put h)

theorem file?_erase (h : place ≠ []) :
    (tree.erase place).file? = Function.update tree.file? place none :=
  file?_of_node?_update (node?_erase h)

/-- A change at a place where no directory stands leaves the directories alone. -/
theorem extends_of_node?_update {found : Option FileNode}
    (hCurrent : after.current = before.current)
    (hNode : after.node? = Function.update before.node? place found)
    (hFree : before.node? place ≠ some .directory) : Extends before after where
  current := hCurrent
  directory other hOther := by
    have hNe : other ≠ place := by
      rintro rfl
      exact hFree hOther
    rw [hNode, Function.update_of_ne hNe, hOther]

/-- Putting a node where no directory stands extends the tree. -/
theorem extends_put (h : tree.node? place ≠ some .directory) :
    Extends tree (tree.put place node) :=
  extends_of_node?_update rfl (node?_put (ne_nil_of_node? h)) h

/-! Following paths. -/

/-- A name that could be entered can be entered in a tree that extends this one. -/
theorem Extends.enter {next : Place} (h : Extends before after)
    (hEnter : before.enter place name = .ok next) : after.enter place name = .ok next := by
  rw [FileTree.enter] at hEnter ⊢
  cases hNode : before.node? place with
  | none => simp [hNode] at hEnter
  | some node =>
      cases node with
      | file content => simp [hNode] at hEnter
      | directory => simpa [hNode, h.directory place hNode] using hEnter

theorem Extends.foldlM_enter {names : List Text} (h : Extends before after)
    (hNames : names.foldlM before.enter place = .ok other) :
    names.foldlM after.enter place = .ok other := by
  induction names generalizing place with
  | nil => exact hNames
  | cons name names ih =>
      rw [List.foldlM_cons] at hNames ⊢
      cases hEnter : before.enter place name with
      | error fault => simp [hEnter, bind, Except.bind] at hNames
      | ok next =>
          rw [hEnter] at hNames
          rw [h.enter hEnter]
          exact ih hNames

/-- Paths lead where they led before. -/
theorem Extends.follow {names : List Text} (h : Extends before after)
    (hFollow : before.follow path names = .ok place) : after.follow path names = .ok place := by
  rw [FileTree.follow] at hFollow ⊢
  split
  next hEmpty => simp [hEmpty] at hFollow
  next hSome =>
    split
    next hNul => simp only [if_neg hSome, if_pos hNul, reduceCtorEq] at hFollow
    next hPlain =>
      rw [if_neg hSome, if_neg hPlain] at hFollow
      rw [h.current]
      exact h.foldlM_enter hFollow

/-- A path that leads somewhere leads there as long as no directory goes away. -/
theorem Extends.locate (h : Extends before after) (hPath : before.locate path = .ok place) :
    after.locate path = .ok place :=
  h.follow hPath

theorem Extends.locateBare (h : Extends before after) (hPath : before.locateBare path = .ok place) :
    after.locateBare path = .ok place :=
  h.follow hPath

theorem Deepens.trans (h : Deepens among before middle) (h' : Deepens among middle after) :
    Deepens among before after where
  toExtends := h.toExtends.trans h'.toExtends
  opened place := by
    rcases h.opened place with hSame | ⟨hFree, hMade, path, hPath, hPlace⟩
    · rw [← hSame]
      exact h'.opened place
    · have hKept : after.node? place = some .directory := h'.directory place hMade
      exact .inr ⟨hFree, hKept, path, hPath, h'.toExtends.locateBare hPlace⟩

/-- Where a path does not end in a slash, it makes no difference whether slashes at its end
count. -/
theorem locateBare_eq_locate (hEnd : path.getLast? ≠ some '/') :
    tree.locateBare path = tree.locate path := by
  by_cases hPath : path = []
  · subst hPath
    rfl
  · have hLast := Text.getLast?_splitAll hPath hEnd
    rw [← List.head?_reverse] at hLast
    rw [locateBare, locate]
    cases hPieces : (Text.splitAll '/' path).reverse with
    | nil => rw [List.dropWhile_nil, ← hPieces, List.reverse_reverse]
    | cons piece pieces =>
        have hPiece : piece ≠ [] := by
          rintro rfl
          simp [hPieces] at hLast
        rw [List.dropWhile_cons_of_neg (by simpa using hPiece), ← hPieces, List.reverse_reverse]

/-! Reading, writing and removing. -/

theorem read_eq_ok (hPath : tree.locate path = .ok place)
    (hFile : tree.file? place = some content) :
    tree.read path = .ok content := by
  simp [read, hPath, node?_eq_file_iff.mpr hFile, bind, Except.bind]

/-- A file is opened where its path leads, and no directory stands there. -/
theorem target_ok (h : tree.target path = .ok place) :
    tree.locate path = .ok place ∧ tree.node? place ≠ some .directory := by
  rw [target] at h
  cases hPlace : tree.locateBare path with
  | error fault => simp [hPlace, bind, Except.bind] at h
  | ok found =>
      simp only [hPlace, bind, Except.bind] at h
      split at h
      next => cases h
      next hFree =>
        obtain ⟨hEnd, hNode⟩ : path.getLast? ≠ some '/' ∧ tree.node? found ≠ some .directory := by
          simpa using hFree
        obtain rfl := Except.ok.inj h
        rw [locateBare_eq_locate hEnd] at hPlace
        exact ⟨hPlace, hNode⟩

/-- What is put in an opened file stands where its path leads, and nowhere else. -/
theorem put_target (h : tree.target path = .ok place) (content : Bytes) :
    (tree.put place (.file content)).locate path = .ok place ∧
      (tree.put place (.file content)).file? = Function.update tree.file? place (some content) ∧
      Extends tree (tree.put place (.file content)) := by
  obtain ⟨hPlace, hNode⟩ := target_ok h
  have hExtends : Extends tree (tree.put place (.file content)) := extends_put hNode
  exact ⟨hExtends.locate hPlace, file?_put (ne_nil_of_node? hNode), hExtends⟩

/-- Removing a file takes it away and touches no other. -/
theorem file?_remove (hPath : tree.locate path = .ok place)
    (hFile : tree.file? place = some content) :
    (tree.remove path).file? = Function.update tree.file? place none := by
  have hNode : tree.node? place = some (.file content) := node?_eq_file_iff.mpr hFile
  have hFree : tree.node? place ≠ some .directory := by simp [hNode]
  have hPlace : place ≠ [] := ne_nil_of_node? hFree
  simp only [remove, hPath, hNode]
  exact file?_erase hPlace

/-- No directory is ever removed. -/
theorem extends_remove (path : Text) : Extends tree (tree.remove path) := by
  rw [remove]
  split
  next => exact .refl tree
  next place hPath =>
    split
    next content hNode =>
      have hFree : tree.node? place ≠ some .directory := by simp [hNode]
      exact extends_of_node?_update rfl (node?_erase (ne_nil_of_node? hFree)) hFree
    next => exact .refl tree

/-! Making directories. -/

theorem deepens_makeDirectory (h : tree.makeDirectory path = .ok after) (hPath : among path) :
    Deepens among tree after := by
  rw [makeDirectory] at h
  cases hPlace : tree.locateBare path with
  | error fault => simp [hPlace, bind, Except.bind] at h
  | ok place =>
      simp only [hPlace, bind, Except.bind] at h
      split at h
      next => cases h
      next hFree =>
        obtain rfl := Except.ok.inj h
        have hNode : tree.node? place = none := by simpa using hFree
        have hNoDirectory : tree.node? place ≠ some .directory := by simp [hNode]
        have hExtends : Extends tree (tree.put place .directory) := extends_put hNoDirectory
        refine ⟨hExtends, fun other => ?_⟩
        rw [node?_put (ne_nil_of_node? hNoDirectory)]
        by_cases hOther : other = place
        · subst hOther
          exact .inr ⟨hNode, Function.update_self .., path, hPath, hExtends.locateBare hPlace⟩
        · exact .inl (Function.update_of_ne hOther ..)

theorem deepens_ensureDirectory (h : tree.ensureDirectory path = .ok after) (hPath : among path) :
    Deepens among tree after := by
  rw [ensureDirectory] at h
  split at h
  next =>
    split at h
    next =>
      obtain rfl := Except.ok.inj h
      exact .refl tree
    next => cases h
  next => exact deepens_makeDirectory h hPath

/-- Directories are made from the top, and those that were made stay. -/
theorem deepens_ensureAll (bound : Nat) (tree : FileTree) (path : Text) :
    Deepens (fun other => other = path ∨ Path.Above path other) tree
      (ensureAll bound tree path).2 := by
  fun_induction ensureAll bound tree path with
  | case1 tree path => exact .refl tree
  | case2 bound tree path made hMade => exact deepens_ensureDirectory hMade (.inl rfl)
  | case3 bound tree path _ c rest hParent fault above hAbove ih =>
      rw [hAbove] at ih
      exact ih.mono fun _ hOther => .inr (Path.above_of_parent? hParent hOther)
  | case4 bound tree path _ c rest hParent above hAbove made hMade ih =>
      rw [hAbove] at ih
      have hDeepens : Deepens (fun other => other = path ∨ Path.Above path other) tree above :=
        ih.mono fun _ hOther => .inr (Path.above_of_parent? hParent hOther)
      exact hDeepens.trans (deepens_ensureDirectory hMade (.inl rfl))
  | case5 bound tree path _ c rest hParent above hAbove fault _ ih =>
      rw [hAbove] at ih
      exact ih.mono fun _ hOther => .inr (Path.above_of_parent? hParent hOther)
  | case6 bound tree path => exact .refl tree
  | case7 bound tree path => exact .refl tree

/-- Making directories adds directories at most, and only where the path or one above it leads,
whether or not all of them could be made. -/
theorem deepens_makeDirectories (tree : FileTree) (path : Text) :
    Deepens (fun other => other = path ∨ Path.Above path other) tree
      (tree.makeDirectories path).2 :=
  deepens_ensureAll _ tree path

end FileTree
end Rubric
