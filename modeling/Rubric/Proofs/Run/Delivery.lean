import Rubric.Proofs.Except
import Rubric.Proofs.File.Tree
import Rubric.Run.Handle

/-! Delivering on a tree of files. A file that is saved changes the files at one place, and one that
cannot be saved leaves all of them alone, though directories above it may have been made. A delivery
is a save of the log, a save of the output, and a removal of the log where the output fails. -/
namespace Rubric

namespace FileTree

/-- An activity on a machine that has a tree of files: its answer, and the tree behind it. -/
def run {α : Type} (tree : FileTree) (device : Device)
    (activity : Host (StateM FileTree) → StateM FileTree α) : α × FileTree :=
  activity (host device) tree

variable {α β : Type} {device : Device} {tree before after made : FileTree} {path : Text}
  {place : Place} {content : Bytes} {e : Error}

@[simp] theorem run_pure (a : α) : tree.run device (fun _ => pure a) = (a, tree) := rfl

theorem run_bind (first : Host (StateM FileTree) → StateM FileTree α)
    (next : Host (StateM FileTree) → α → StateM FileTree β) :
    tree.run device (fun host => first host >>= next host) =
      (tree.run device first).2.run device (next · (tree.run device first).1) := rfl

/-- Opens a file to be saved, with the directories above it: its place, and the tree that they are
in. -/
def opening (tree : FileTree) (path : Text) : Except Error Place × FileTree :=
  match Path.parent? path with
  | some (c :: rest) =>
    match tree.makeDirectories (c :: rest) with
    | (.error fault, made) => (.error (.file (c :: rest) fault), made)
    | (.ok (), made) => ((made.target path).mapError (.file path), made)
  | _ => ((tree.target path).mapError (.file path), tree)

theorem run_overwrite : tree.run device (·.overwrite path content) =
    ((tree.write device path content).1.mapError (.file path),
      (tree.write device path content).2) := by
  have hWrite : tree.run device (·.write path content) = tree.write device path content := rfl
  unfold Host.overwrite
  rw [run_bind, hWrite]
  cases (tree.write device path content).1 <;> rfl

/-- Directories are made above the path at most. Either they stand in the way, or they are there
and the file is opened in the tree that has them. -/
theorem opening_cases (tree : FileTree) (path : Text) :
    ∃ made, Deepens (Path.Above path) tree made ∧
      ((∃ parent fault, tree.opening path = (.error (.file parent fault), made) ∧
          ∀ device content, tree.run device (·.save path content) =
            (.error (.file parent fault), made)) ∨
        tree.opening path = ((made.target path).mapError (.file path), made) ∧
          ∀ device content, tree.run device (·.save path content) =
            made.run device (·.overwrite path content)) := by
  unfold Host.save
  rw [opening]
  cases hParent : Path.parent? path with
  | none => exact ⟨tree, .refl tree, .inr ⟨rfl, fun _ _ => rfl⟩⟩
  | some parent =>
      cases parent with
      | nil => exact ⟨tree, .refl tree, .inr ⟨rfl, fun _ _ => rfl⟩⟩
      | cons c rest =>
          have hDeepens : Deepens (Path.Above path) tree (tree.makeDirectories (c :: rest)).2 :=
            (deepens_makeDirectories tree (c :: rest)).mono fun _ =>
              Path.above_of_parent? hParent
          have hMake (device : Device) : tree.run device (·.makeDirectories (c :: rest)) =
              tree.makeDirectories (c :: rest) := rfl
          -- The directories are made before the device or the content have a say.
          simp only [run_bind, hMake]
          generalize tree.makeDirectories (c :: rest) = outcome at hDeepens
          obtain ⟨answer, made⟩ := outcome
          refine ⟨made, hDeepens, ?_⟩
          cases answer with
          | error fault => exact .inl ⟨c :: rest, fault, rfl, fun _ _ => rfl⟩
          | ok => exact .inr ⟨rfl, fun _ _ => rfl⟩

/-- A save opens its file, and writes into it as far as the device gets. -/
theorem run_save (tree : FileTree) (device : Device) (path : Text) (content : Bytes) :
    tree.run device (·.save path content) =
      match tree.opening path with
      | (.error e, made) => (.error e, made)
      | (.ok place, made) =>
        match device.shortfall? made path content with
        | none => (.ok (), made.put place (.file content))
        | some short => (.error (.file path short.fault),
            made.put place (.file (content.take short.written))) := by
  obtain ⟨made, -, ⟨parent, fault, hOpening, hSave⟩ | ⟨hOpening, hSave⟩⟩ := opening_cases tree path
  · rw [hSave, hOpening]
  · rw [hSave, hOpening, run_overwrite, write]
    cases made.target path with
    | error fault => rfl
    | ok place =>
        rw [mapError_eq_ok_iff.mpr (rfl : Except.ok place = .ok place)]
        dsimp only
        cases device.shortfall? made path content <;> rfl

/-- To open a file for writing may make directories above it, and nothing else. -/
theorem opening_ok (h : tree.opening path = (.ok place, made)) :
    Deepens (Path.Above path) tree made ∧ made.target path = .ok place := by
  obtain ⟨above, hAbove, ⟨parent, fault, hOpening, -⟩ | ⟨hOpening, -⟩⟩ := opening_cases tree path
  · simp [hOpening] at h
  · obtain ⟨hTarget, rfl⟩ := Prod.mk.inj (hOpening.symm.trans h)
    exact ⟨hAbove, mapError_eq_ok_iff.mp hTarget⟩

/-- If that fails then directories may be left, and the error names a file. -/
theorem opening_error (h : tree.opening path = (.error e, made)) :
    Deepens (Path.Above path) tree made ∧ ∃ blocked fault, e = .file blocked fault := by
  obtain ⟨above, hAbove, ⟨parent, fault, hOpening, -⟩ | ⟨hOpening, -⟩⟩ := opening_cases tree path
  · obtain ⟨hFault, rfl⟩ := Prod.mk.inj (hOpening.symm.trans h)
    exact ⟨hAbove, parent, fault, (Except.error.inj hFault).symm⟩
  · obtain ⟨hTarget, rfl⟩ := Prod.mk.inj (hOpening.symm.trans h)
    obtain ⟨fault, -, rfl⟩ := mapError_eq_error_iff.mp hTarget
    exact ⟨hAbove, path, fault, rfl⟩

/-- A file that was saved has its content where its path leads. All other files are as before. -/
theorem run_save_ok (h : tree.run device (·.save path content) = (.ok (), after)) :
    ∃ place, after.locate path = .ok place ∧
      after.file? = Function.update tree.file? place (some content) ∧ Extends tree after := by
  rw [run_save] at h
  split at h
  next => simp at h
  next place made hOpening =>
    split at h
    next =>
      obtain ⟨-, rfl⟩ := Prod.mk.inj h
      obtain ⟨hMade, hTarget⟩ := opening_ok hOpening
      obtain ⟨hPlace, hFiles, hExtends⟩ := put_target hTarget content
      rw [hMade.widens.files] at hFiles
      exact ⟨place, hPlace, hFiles, hMade.toExtends.trans hExtends⟩
    next => simp at h

/-- What a save that fails leaves behind. -/
inductive Unsaved (device : Device) (path : Text) (content : Bytes) (tree : FileTree) :
    Error → FileTree → Prop
  /-- The file cannot be opened, so all files are as they were. -/
  | unopened {blocked : Text} {fault : FileFault} {made : FileTree}
      (hOpening : tree.opening path = (.error (.file blocked fault), made)) :
      Unsaved device path content tree (.file blocked fault) made
  /-- The file has been opened, and a beginning of the content stands in it. -/
  | begun {place : Place} {made : FileTree} {short : Shortfall}
      (hOpening : tree.opening path = (.ok place, made))
      (hShort : device.shortfall? made path content = some short) :
      Unsaved device path content tree (.file path short.fault)
        (made.put place (.file (content.take short.written)))

/-- A save that fails has failed at one of the stages of a save. -/
theorem run_save_error (h : tree.run device (·.save path content) = (.error e, after)) :
    Unsaved device path content tree e after := by
  rw [run_save] at h
  split at h
  next fault made hOpening =>
    obtain ⟨-, blocked, fault, rfl⟩ := opening_error hOpening
    obtain ⟨hFault, rfl⟩ := Prod.mk.inj h
    obtain rfl := Except.error.inj hFault
    exact .unopened hOpening
  next place made hOpening =>
    split at h
    next => simp at h
    next short hShort =>
      obtain ⟨hFault, rfl⟩ := Prod.mk.inj h
      obtain rfl := Except.error.inj hFault
      exact .begun hOpening hShort

/-- The error of a failed save names a file. -/
theorem Unsaved.exists_file (h : Unsaved device path content tree e after) :
    ∃ blocked fault, e = .file blocked fault := by
  cases h with
  | unopened => exact ⟨_, _, rfl⟩
  | begun => exact ⟨_, _, rfl⟩

/-- Where opened files can be written, a file that cannot be saved leaves all files alone. -/
theorem Unsaved.deepens (h : Unsaved device path content tree e after)
    (hWrites : device.WritesOpened) : Deepens (Path.Above path) tree after := by
  cases h with
  | unopened hOpening => exact (opening_error hOpening).1
  | begun hOpening hShort => simp [hWrites _ path content] at hShort

/-- A file has been saved. Where there is none to save, nothing has happened. -/
def Saved (device : Device) (file : Option (Text × Bytes)) (before after : FileTree) : Prop :=
  match file with
  | none => after = before
  | some (path, content) => before.run device (·.save path content) = (.ok (), after)

theorem Saved.unique {file : Option (Text × Bytes)} {other : FileTree}
    (h : Saved device file before after) (hOther : Saved device file before other) :
    after = other := by
  cases file with
  | none => exact Eq.trans h (Eq.symm hOther)
  | some entry => exact congrArg Prod.snd (Eq.trans (Eq.symm h) hOther)

theorem Saved.extends {file : Option (Text × Bytes)} (h : Saved device file before after) :
    Extends before after := by
  cases file with
  | none =>
      obtain rfl : after = before := h
      exact .refl after
  | some entry =>
      obtain ⟨-, -, -, hExtends⟩ := run_save_ok h
      exact hExtends

/-- What was saved is read back by the same path. -/
theorem Saved.read (h : Saved device (some (path, content)) before after) :
    after.read path = .ok content := by
  obtain ⟨place, hPlace, hFiles, -⟩ := run_save_ok h
  exact read_eq_ok hPlace (by rw [hFiles, Function.update_self])

/-- A file that its path does not lead to is left alone. -/
theorem Saved.file?_of_ne {file : Option (Text × Bytes)} {place : Place}
    (h : Saved device file before after)
    (hNe : ∀ path content, file = some (path, content) → after.locate path ≠ .ok place) :
    after.file? place = before.file? place := by
  cases file with
  | none =>
      obtain rfl : after = before := h
      rfl
  | some entry =>
      obtain ⟨target, hTarget, hFiles, -⟩ := run_save_ok h
      have hPlace : place ≠ target := by
        rintro rfl
        exact hNe _ _ rfl hTarget
      rw [hFiles, Function.update_of_ne hPlace]

end FileTree

namespace Plan

/-- Where the text of a plan goes. -/
def delivered (plan : Plan) : Output :=
  match plan.output with
  | none => .text plan.text
  | some (path, _) => .written path

theorem delivered_eq_written_iff {plan : Plan} {path : Text} :
    plan.delivered = .written path ↔ ∃ content, plan.output = some (path, content) := by
  rw [delivered]
  cases plan.output with
  | none => simp
  | some file => simp [Prod.ext_iff]

/-- A tree without the log of a plan. -/
def withdraw (plan : Plan) (tree : FileTree) : FileTree :=
  match plan.log with
  | none => tree
  | some (path, _) => tree.remove path

/-- Withdrawing a log that was saved takes away what stands in its place. The file that stood there
before the log does not come back. -/
theorem file?_withdraw {plan : Plan} {device : Device} {tree logged blocked : FileTree}
    {path : Text} {content : Bytes} (hLog : plan.log = some (path, content))
    (hLogged : FileTree.Saved device plan.log tree logged)
    (hBlocked : FileTree.Widens logged blocked) :
    ∃ place, (plan.withdraw blocked).locate path = .ok place ∧
      (plan.withdraw blocked).file? = Function.update tree.file? place none := by
  rw [hLog] at hLogged
  obtain ⟨place, hPlace, hFiles, -⟩ := FileTree.run_save_ok hLogged
  have hFile : blocked.file? place = some content := by
    rw [hBlocked.files, hFiles, Function.update_self]
  have hFound : blocked.locate path = .ok place := hBlocked.toExtends.locate hPlace
  have hWithdraw : plan.withdraw blocked = blocked.remove path := by
    simp only [withdraw, hLog]
  rw [hWithdraw]
  refine ⟨place, (FileTree.extends_remove path).locate hFound, ?_⟩
  rw [FileTree.file?_remove hFound hFile, hBlocked.files, hFiles, Function.update_idem]

/-- What can become of a plan on a tree: the answer, and the tree behind it. -/
inductive Delivery (plan : Plan) (device : Device) (tree : FileTree) :
    Except Error Output × FileTree → Prop where
  /-- The log cannot be saved, and the output is not tried. -/
  | unlogged {path : Text} {content : Bytes} {e : Error} {after : FileTree}
      (hLog : plan.log = some (path, content))
      (hSave : tree.run device (·.save path content) = (.error e, after)) :
      Delivery plan device tree (.error e, after)
  /-- The output cannot be saved behind the log, which is removed. -/
  | blocked {path : Text} {content : Bytes} {e : Error} {logged after : FileTree}
      (hLogged : FileTree.Saved device plan.log tree logged)
      (hOutput : plan.output = some (path, content))
      (hSave : logged.run device (·.save path content) = (.error e, after)) :
      Delivery plan device tree (.error e, plan.withdraw after)
  /-- The log and the output are saved, as far as the plan has them. -/
  | done {logged after : FileTree} (hLogged : FileTree.Saved device plan.log tree logged)
      (hOutput : FileTree.Saved device plan.output logged after) :
      Delivery plan device tree (.ok plan.delivered, after)

variable {plan : Plan} {device : Device} {tree logged : FileTree}

/-- Behind its log, a plan delivers its output or takes the log back. -/
theorem delivery_writeOutput (hLogged : FileTree.Saved device plan.log tree logged) :
    plan.Delivery device tree (logged.run device plan.writeOutput) := by
  unfold writeOutput
  cases hOutput : plan.output with
  | none =>
      have hDelivered : plan.delivered = .text plan.text := by simp [delivered, hOutput]
      rw [FileTree.run_pure, ← hDelivered]
      exact .done hLogged (by simp [FileTree.Saved, hOutput])
  | some file =>
      obtain ⟨path, content⟩ := file
      simp only [FileTree.run_bind]
      cases hSave : logged.run device (·.save path content) with
      | mk answer after =>
          cases answer with
          | ok =>
              have hDelivered : plan.delivered = .written path := by simp [delivered, hOutput]
              rw [FileTree.run_pure, ← hDelivered]
              exact .done hLogged (by simpa [FileTree.Saved, hOutput] using hSave)
          | error e =>
              have hBlocked : plan.Delivery device tree (.error e, plan.withdraw after) :=
                .blocked hLogged hOutput hSave
              unfold withdraw at hBlocked
              cases hLog : plan.log with
              | none =>
                  rw [hLog] at hBlocked
                  exact hBlocked
              | some log =>
                  rw [hLog] at hBlocked
                  exact hBlocked

/-- Every plan is delivered in one of the ways of a delivery, whatever the tree and the device
are. -/
theorem delivery (plan : Plan) (device : Device) (tree : FileTree) :
    plan.Delivery device tree (tree.run device plan.deliver) := by
  unfold deliver
  cases hLog : plan.log with
  | none => exact delivery_writeOutput (by simp [FileTree.Saved, hLog])
  | some file =>
      obtain ⟨path, content⟩ := file
      simp only [FileTree.run_bind]
      cases hSave : tree.run device (·.save path content) with
      | mk answer after =>
          cases answer with
          | error e => exact .unlogged hLog hSave
          | ok => exact delivery_writeOutput (by simpa [FileTree.Saved, hLog] using hSave)

end Plan
end Rubric
