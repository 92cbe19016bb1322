import ImageFs.Image.Check
import ImageFs.Proofs.Steps

/-!
Computations that access a file only inside: on a file that is as long as its image, none of their
accesses reaches behind the end, and the file keeps its length. Main statements: what is put together from
such computations is one of them.
-/

namespace ImageFs

variable {α β : Type}

/-! Overruns -/

/-- The errors of a device for an access that does not lie inside its file. -/
def FsError.Overruns : FsError → Prop
  | .misfit (.outOfBounds _ _ _ _) => True
  | .misfit (.rangeOverflow _) => True
  | .host cause => cause = .shortRead
  | _ => False

def Halt.Overruns : Halt → Prop
  | .failed error => error.Overruns
  | _ => False

/-- A computation without access to the file that does not fail with an overrun. -/
def Harmless (computed : Except FsError α) : Prop :=
  ∀ error, computed = .error error → ¬ error.Overruns

/-- The query accesses a file that is long enough for the image only inside. -/
def Query.Inside (geometry : Geometry) (query : Query α) : Prop :=
  ∀ backing, geometry.imageLength ≤ backing.content.size →
    ∀ halt, query backing = .error halt → ¬ halt.Overruns

/-- The update accesses a file that is long enough for the image only inside, and keeps its length. -/
def Update.Inside (geometry : Geometry) (update : Update α) : Prop :=
  ∀ backing, geometry.imageLength ≤ backing.content.size →
    (update backing).2.content.size = backing.content.size ∧
    ∀ halt, (update backing).1 = .error halt → ¬ halt.Overruns

namespace Harmless

theorem ok (value : α) : Harmless (.ok value : Except FsError α) :=
  nofun

theorem error {error : FsError} (harmless : ¬ error.Overruns) :
    Harmless (.error error : Except FsError α) := by
  intro error' isError
  cases isError
  exact harmless

theorem bind {first : Except FsError α} {next : α → Except FsError β} (harmless : Harmless first)
    (goesOn : ∀ value, Harmless (next value)) : Harmless (first >>= next) := by
  cases first with
  | error error => exact Harmless.error (harmless error rfl)
  | ok value => exact goesOn value

theorem ite {condition : Prop} [Decidable condition] {yes no : Except FsError α}
    (holds : Harmless yes) (fails : Harmless no) : Harmless (if condition then yes else no) := by
  split
  · exact holds
  · exact fails

theorem mapError {ε : Type} {computed : Except ε α} {wrap : ε → FsError}
    (harmless : ∀ error, ¬ (wrap error).Overruns) : Harmless (computed.mapError wrap) := by
  cases computed with
  | error cause => exact Harmless.error (harmless cause)
  | ok value => exact .ok value

end Harmless

/-! Queries -/

namespace Query.Inside

variable {geometry : Geometry}

theorem pure (value : α) : (Pure.pure value : Query α).Inside geometry :=
  nofun

theorem halt {halt : Halt} (harmless : ¬ halt.Overruns) :
    (Query.halt halt : Query α).Inside geometry := by
  intro backing long halt' ends
  cases ends
  exact harmless

theorem throw {error : FsError} (harmless : ¬ error.Overruns) :
    (MonadExcept.throw error : Query α).Inside geometry :=
  halt harmless

theorem except {computed : Except FsError α} (harmless : Harmless computed) :
    (liftM computed : Query α).Inside geometry := by
  cases computed with
  | ok value => exact pure value
  | error error => exact throw (harmless error rfl)

theorem bind {query : Query α} {next : α → Query β} (first : query.Inside geometry)
    (second : ∀ value, (next value).Inside geometry) : (query >>= next).Inside geometry := by
  intro backing long halt ends
  cases answered : query backing with
  | ok value =>
      rw [Query.bind_ok answered] at ends
      exact second value backing long halt ends
  | error halt' =>
      rw [Query.bind_error answered] at ends
      cases ends
      exact first backing long halt answered

/-- What a computation gives may be put to use. -/
theorem given {computed : Except FsError α} {next : α → Query β} (harmless : Harmless computed)
    (second : ∀ value, computed = .ok value → (next value).Inside geometry) :
    ((liftM computed : Query α) >>= next).Inside geometry := by
  cases computed with
  | ok value => exact second value rfl
  | error error => exact throw (harmless error rfl)

theorem ite {condition : Prop} [Decidable condition] {yes no : Query α} (holds : yes.Inside geometry)
    (fails : no.Inside geometry) : (if condition then yes else no).Inside geometry := by
  split
  · exact holds
  · exact fails

theorem damageOr {query : Query α} (inside : query.Inside geometry) :
    query.damageOr.Inside geometry := by
  intro backing long halt ends
  simp only [Query.damageOr, tryCatchThe, MonadExceptOf.tryCatch, ← bind_pure_comp, Query.bind_apply]
    at ends
  cases answered : query backing with
  | ok value =>
      rw [answered] at ends
      cases ends
  | error halt' =>
      rw [answered] at ends
      have harmless := inside backing long halt' answered
      cases halt' with
      | failed error =>
          cases error
          case corrupt => cases ends
          all_goals
            cases ends
            exact harmless
      | crashed cause =>
          cases ends
          exact harmless
      | blocked =>
          cases ends
          exact harmless

theorem mapM {query : α → Query β} (inside : ∀ value, (query value).Inside geometry)
    (values : List α) : (values.mapM query).Inside geometry := by
  induction values with
  | nil => exact pure []
  | cons value rest induction =>
      rw [List.mapM_cons]
      exact (inside value).bind fun _ => induction.bind fun _ => pure _

end Query.Inside

/-! Updates -/

/-- Either somebody waits for ever, or the answer is that of the update. -/
theorem Update.ensuring_cases (update : Update α) (cleanup : Update Unit) (backing : Backing) :
    update.ensuring cleanup backing = (.error .blocked, (update backing).2) ∨
    update.ensuring cleanup backing = (.error .blocked, (cleanup (update backing).2).2) ∨
    update.ensuring cleanup backing = ((update backing).1, (cleanup (update backing).2).2) := by
  rw [Update.ensuring]
  split
  · next after answered =>
    rw [answered]
    exact .inl rfl
  · next answer after proceeds answered =>
    rw [answered]
    split
    · next final waits =>
      rw [waits]
      exact .inr (.inl rfl)
    · next cleaned final ends waits =>
      rw [waits]
      exact .inr (.inr rfl)

namespace Update.Inside

variable {geometry : Geometry}

theorem pure (value : α) : (Pure.pure value : Update α).Inside geometry :=
  fun _ _ => ⟨rfl, nofun⟩

theorem halt {halt : Halt} (harmless : ¬ halt.Overruns) :
    (Update.halt halt : Update α).Inside geometry := by
  refine fun backing long => ⟨rfl, fun halt' ends => ?_⟩
  cases ends
  exact harmless

theorem throw {error : FsError} (harmless : ¬ error.Overruns) :
    (MonadExcept.throw error : Update α).Inside geometry :=
  halt harmless

theorem ask {query : Query α} (inside : query.Inside geometry) :
    (liftM query : Update α).Inside geometry :=
  fun backing long => ⟨rfl, inside backing long⟩

theorem except {computed : Except FsError α} (harmless : Harmless computed) :
    (liftM computed : Update α).Inside geometry :=
  ask (.except harmless)

theorem bind {update : Update α} {next : α → Update β} (first : update.Inside geometry)
    (second : ∀ value, (next value).Inside geometry) : (update >>= next).Inside geometry := by
  intro backing long
  obtain ⟨size, harmless⟩ := first backing long
  rw [Update.bind_apply]
  rcases answered : update backing with ⟨halt | value, after⟩
  · rw [answered] at size harmless
    refine ⟨size, fun halt' ends => ?_⟩
    cases ends
    exact harmless halt rfl
  · rw [answered] at size
    obtain ⟨size', harmless'⟩ := second value after (size ▸ long)
    exact ⟨size'.trans size, harmless'⟩

theorem given {computed : Except FsError α} {next : α → Update β} (harmless : Harmless computed)
    (second : ∀ value, computed = .ok value → (next value).Inside geometry) :
    ((liftM computed : Update α) >>= next).Inside geometry := by
  cases computed with
  | ok value => exact second value rfl
  | error error => exact throw (harmless error rfl)

theorem ite {condition : Prop} [Decidable condition] {yes no : Update α}
    (holds : yes.Inside geometry) (fails : no.Inside geometry) :
    (if condition then yes else no).Inside geometry := by
  split
  · exact holds
  · exact fails

theorem guard {condition : Prop} [Decidable condition] {error : FsError} {next : Unit → Update α}
    (harmless : ¬ error.Overruns) (passes : ¬ condition → (next ()).Inside geometry) :
    (if condition then (MonadExcept.throw error : Update Unit) >>= next else next ()).Inside
      geometry := by
  split
  · exact throw harmless
  · next fails => exact passes fails

theorem tryCatch {update : Update α} {handler : FsError → Update α} (inside : update.Inside geometry)
    (handled : ∀ error, ¬ error.Overruns → (handler error).Inside geometry) :
    (MonadExcept.tryCatch update handler).Inside geometry := by
  intro backing long
  obtain ⟨size, harmless⟩ := inside backing long
  rcases answered : update backing with ⟨halt | value, after⟩
  · rw [answered] at size harmless
    have notOverrun := harmless halt rfl
    cases halt with
    | failed error =>
        rw [Update.tryCatch_error answered]
        obtain ⟨size', harmless'⟩ := handled error notOverrun after (size ▸ long)
        exact ⟨size'.trans size, harmless'⟩
    | crashed cause =>
        rw [Update.tryCatch_crashed answered]
        exact ⟨size, harmless⟩
    | blocked =>
        rw [Update.tryCatch_blocked answered]
        exact ⟨size, harmless⟩
  · rw [answered] at size
    rw [Update.tryCatch_ok answered]
    exact ⟨size, nofun⟩

/-- An error that is handed over as a value is no overrun. -/
theorem attempt {update : Update α} {next : Except FsError α → Update β}
    (inside : update.Inside geometry)
    (second : ∀ outcome, Harmless outcome → (next outcome).Inside geometry) :
    (update.attempt >>= next).Inside geometry := by
  intro backing long
  obtain ⟨size, harmless⟩ := inside backing long
  rw [Update.bind_apply, Update.attempt]
  rcases answered : update backing with ⟨halt | value, after⟩
  · rw [answered] at size harmless
    have notOverrun := harmless halt rfl
    cases halt with
    | failed error =>
        obtain ⟨size', harmless'⟩ := second (.error error) (.error notOverrun) after (size ▸ long)
        exact ⟨size'.trans size, harmless'⟩
    | crashed cause => exact ⟨size, fun halt ends => by cases ends; exact notOverrun⟩
    | blocked => exact ⟨size, fun halt ends => by cases ends; exact notOverrun⟩
  · rw [answered] at size
    obtain ⟨size', harmless'⟩ := second (.ok value) (.ok value) after (size ▸ long)
    exact ⟨size'.trans size, harmless'⟩

theorem ensuring {update : Update α} {cleanup : Update Unit} (inside : update.Inside geometry)
    (cleans : cleanup.Inside geometry) : (update.ensuring cleanup).Inside geometry := by
  intro backing long
  obtain ⟨size, harmless⟩ := inside backing long
  obtain ⟨size', -⟩ := cleans _ (size ▸ long)
  rcases update.ensuring_cases cleanup backing with ends | ends | ends <;> rw [ends]
  · exact ⟨size, fun halt waits => by cases waits; exact id⟩
  · exact ⟨size'.trans size, fun halt waits => by cases waits; exact id⟩
  · exact ⟨size'.trans size, harmless⟩

end Update.Inside

end ImageFs
