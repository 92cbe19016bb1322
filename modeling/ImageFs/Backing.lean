import ImageFs.Host.Content
import ImageFs.Host.RangeLock

/-!
The state that all parties on one host file share, and the two kinds of computation on it: a query
reads it, an update may change it. What an update has changed before it stops stays changed.
-/

namespace ImageFs

/-- A host file in use: its content and the locks on it. -/
structure Backing where
  content : Content
  locks : LockTable

/-- What breaks a computation down: a request that no machine can serve, or a number that leaves the
range of its type. -/
inductive Crash where
  | oversizedBuffer (length : Nat)
  | negativeLength (whole part : Nat)
  | linkOverflow (inode : Nat)
deriving DecidableEq, Repr

/-- Why a computation ends without a value: it reports an error, it breaks down, or it waits for a
lock that nobody is going to release. -/
inductive Halt where
  | failed (error : FsError)
  | crashed (cause : Crash)
  | blocked
deriving DecidableEq, Repr

/-! Queries -/

def Query (α : Type) : Type :=
  Backing → Except Halt α

namespace Query

instance : Monad Query where
  pure value := fun _ => .ok value
  bind query next := fun backing =>
    match query backing with
    | .ok value => next value backing
    | .error halt => .error halt

def halt {α : Type} (halt : Halt) : Query α :=
  fun _ => .error halt

instance : MonadExceptOf FsError Query where
  throw error := halt (.failed error)
  tryCatch query handler := fun backing =>
    match query backing with
    | .error (.failed error) => handler error backing
    | answer => answer

instance : MonadLift (Except FsError) Query where
  monadLift answer := fun _ => answer.mapError .failed

variable {α β : Type}

@[simp] theorem pure_apply (value : α) (backing : Backing) :
    (pure value : Query α) backing = .ok value := rfl

theorem bind_apply (query : Query α) (next : α → Query β) (backing : Backing) :
    (query >>= next) backing =
      match query backing with
      | .ok value => next value backing
      | .error halt => .error halt := rfl

theorem bind_ok {query : Query α} {next : α → Query β} {backing : Backing} {value : α}
    (answer : query backing = .ok value) : (query >>= next) backing = next value backing := by
  rw [bind_apply, answer]

theorem bind_error {query : Query α} {next : α → Query β} {backing : Backing} {halt : Halt}
    (answer : query backing = .error halt) : (query >>= next) backing = .error halt := by
  rw [bind_apply, answer]

@[simp] theorem throw_apply (error : FsError) (backing : Backing) :
    (throw error : Query α) backing = .error (.failed error) := rfl

@[simp] theorem lift_ok (value : α) (backing : Backing) :
    (liftM (Except.ok value : Except FsError α) : Query α) backing = .ok value := rfl

@[simp] theorem lift_error (error : FsError) (backing : Backing) :
    (liftM (Except.error error : Except FsError α) : Query α) backing =
      .error (.failed error) := rfl

instance : LawfulMonad Query := LawfulMonad.mk' Query
  (fun query => by
    funext backing
    change (match query backing with | .ok value => _ | .error halt => _) = _
    cases query backing <;> rfl)
  (fun _ _ => rfl)
  (fun query _ _ => by
    funext backing
    simp only [bind_apply]
    cases query backing <;> rfl)

end Query

/-! Updates -/

def Update (α : Type) : Type :=
  Backing → Except Halt α × Backing

namespace Update

instance : Monad Update where
  pure value := fun backing => (.ok value, backing)
  bind update next := fun backing =>
    match update backing with
    | (.ok value, after) => next value after
    | (.error halt, after) => (.error halt, after)

def halt {α : Type} (halt : Halt) : Update α :=
  fun backing => (.error halt, backing)

instance : MonadExceptOf FsError Update where
  throw error := halt (.failed error)
  tryCatch update handler := fun backing =>
    match update backing with
    | (.error (.failed error), after) => handler error after
    | answer => answer

instance : MonadLift Query Update where
  monadLift query := fun backing => (query backing, backing)

variable {α β : Type}

/-- Runs `cleanup` after `update`, whatever became of it. The answer is that of `update`, and a
failing `cleanup` does not show, but one that waits forever never hands the answer over. -/
def ensuring (update : Update α) (cleanup : Update Unit) : Update α := fun backing =>
  match update backing with
  | (.error .blocked, after) => (.error .blocked, after)
  | (answer, after) =>
      match cleanup after with
      | (.error .blocked, final) => (.error .blocked, final)
      | (_, final) => (answer, final)

/-- Runs an update and hands its error over as a value. What the update has changed stays. -/
def attempt (update : Update α) : Update (Except FsError α) := fun backing =>
  match update backing with
  | (.ok value, after) => (.ok (.ok value), after)
  | (.error (.failed error), after) => (.ok (.error error), after)
  | (.error halt, after) => (.error halt, after)

@[simp] theorem pure_apply (value : α) (backing : Backing) :
    (pure value : Update α) backing = (.ok value, backing) := rfl

theorem bind_apply (update : Update α) (next : α → Update β) (backing : Backing) :
    (update >>= next) backing =
      match update backing with
      | (.ok value, after) => next value after
      | (.error halt, after) => (.error halt, after) := rfl

theorem bind_ok {update : Update α} {next : α → Update β} {backing after : Backing} {value : α}
    (answer : update backing = (.ok value, after)) :
    (update >>= next) backing = next value after := by
  rw [bind_apply, answer]

theorem bind_error {update : Update α} {next : α → Update β} {backing after : Backing} {halt : Halt}
    (answer : update backing = (.error halt, after)) :
    (update >>= next) backing = (.error halt, after) := by
  rw [bind_apply, answer]

@[simp] theorem throw_apply (error : FsError) (backing : Backing) :
    (throw error : Update α) backing = (.error (.failed error), backing) := rfl

@[simp] theorem lift_apply (query : Query α) (backing : Backing) :
    (liftM query : Update α) backing = (query backing, backing) := rfl

theorem bind_query {query : Query α} {next : α → Update β} {backing : Backing} {value : α}
    (answer : query backing = .ok value) :
    ((liftM query : Update α) >>= next) backing = next value backing := by
  rw [bind_apply, lift_apply, answer]

instance : LawfulMonad Update := LawfulMonad.mk' Update
  (fun update => by
    funext backing
    change (match update backing with | (.ok value, after) => _ | (.error halt, after) => _) = _
    rcases update backing with ⟨_ | _, _⟩ <;> rfl)
  (fun _ _ => rfl)
  (fun update _ _ => by
    funext backing
    simp only [bind_apply]
    rcases update backing with ⟨_ | _, _⟩ <;> rfl)

end Update

end ImageFs
