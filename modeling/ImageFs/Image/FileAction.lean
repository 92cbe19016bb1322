import ImageFs.Backing
import ImageFs.Image.OpenFiles

/-!
Computations on the open files of one image and on the backing file that it shares with others.
What was changed in either before a failure stays changed.
-/

namespace ImageFs

def FileAction (α : Type) : Type :=
  OpenFiles → Backing → Except Halt α × OpenFiles × Backing

namespace FileAction

instance : Monad FileAction where
  pure value := fun files backing => (.ok value, files, backing)
  bind action next := fun files backing =>
    match action files backing with
    | (.ok value, files, backing) => next value files backing
    | (.error halt, files, backing) => (.error halt, files, backing)

instance : MonadLift Update FileAction where
  monadLift update := fun files backing =>
    match update backing with
    | (answer, after) => (answer, files, after)

instance : MonadExceptOf FsError FileAction where
  throw error := fun files backing => (.error (.failed error), files, backing)
  tryCatch action handler := fun files backing =>
    match action files backing with
    | (.error (.failed error), files, backing) => handler error files backing
    | answer => answer

/-! The open files -/

def file (handle : Nat) : FileAction OpenFile := fun files backing =>
  ((files.get handle).mapError .failed, files, backing)

def insert (file : OpenFile) : FileAction Nat := fun files backing =>
  match files.insert file with
  | (answer, files) => (answer.mapError .failed, files, backing)

def setOffset (handle offset : Nat) : FileAction Unit := fun files backing =>
  match files.setOffset handle offset with
  | .ok files => (.ok (), files, backing)
  | .error error => (.error (.failed error), files, backing)

def remove (handle : Nat) : FileAction Unit := fun files backing =>
  match files.remove handle with
  | .ok (_, files) => (.ok (), files, backing)
  | .error error => (.error (.failed error), files, backing)

variable {α β : Type}

@[simp] theorem pure_apply (value : α) (files : OpenFiles) (backing : Backing) :
    (pure value : FileAction α) files backing = (.ok value, files, backing) := rfl

theorem bind_apply (action : FileAction α) (next : α → FileAction β) (files : OpenFiles)
    (backing : Backing) :
    (action >>= next) files backing =
      match action files backing with
      | (.ok value, files, backing) => next value files backing
      | (.error halt, files, backing) => (.error halt, files, backing) := rfl

theorem lift_apply (update : Update α) (files : OpenFiles) (backing : Backing) :
    (liftM update : FileAction α) files backing =
      ((update backing).1, files, (update backing).2) := rfl

@[simp] theorem throw_apply (error : FsError) (files : OpenFiles) (backing : Backing) :
    (throw error : FileAction α) files backing = (.error (.failed error), files, backing) := rfl

instance : LawfulMonad FileAction := LawfulMonad.mk' FileAction
  (fun action => by
    funext files backing
    change (match action files backing with
      | (.ok value, files, backing) => _ | (.error halt, files, backing) => _) = _
    rcases action files backing with ⟨_ | _, _, _⟩ <;> rfl)
  (fun _ _ => rfl)
  (fun action _ _ => by
    funext files backing
    simp only [bind_apply]
    rcases action files backing with ⟨_ | _, _, _⟩ <;> rfl)

end FileAction

end ImageFs
