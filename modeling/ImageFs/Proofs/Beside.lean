import ImageFs.Proofs.LockSections

/-!
Locks that others have on the file. Main statements: beside them an update does what it does without
them, or it waits for one of them, and it never waits for locks that stand in the way of none of its
requests.
-/

namespace ImageFs

variable {α β : Type}

def Backing.beside (backing : Backing) (others : LockTable) : Backing :=
  { backing with locks := backing.locks ++ others }

namespace LockTable

/-- None of the locks is the owner's. -/
def Foreign (others : LockTable) (owner : Nat) : Prop :=
  ∀ lock ∈ others, lock.owner ≠ owner

/-- Somebody stands in the way of the owner's request. -/
def hinders (others : LockTable) (owner : Nat) (kind : LockKind) (span : Span) : Bool :=
  others.any (·.conflicts owner kind span)

/-- Somebody else's locks, none of which stands in the way of the request. -/
structure Admits (others : LockTable) (owner : Nat) (kind : LockKind) (span : Span) : Prop where
  foreign : others.Foreign owner
  free : others.hinders owner kind span = false

/-- Somebody else's locks, which do not touch the span. -/
def Clear (others : LockTable) (owner : Nat) (span : Span) : Prop :=
  ∀ lock ∈ others, lock.owner ≠ owner ∧
    (lock.span.stop ≤ span.first ∨ span.stop ≤ lock.span.first)

variable {others table : LockTable} {owner : Nat} {kind : LockKind} {span : Span}

theorem request_of_free (free : table.hinders owner kind span = false) :
    table.request owner kind span = some (⟨owner, kind, span⟩ :: table.release owner span) := by
  rw [hinders] at free
  rw [request, free]
  rfl

theorem Foreign.release (foreign : others.Foreign owner) : others.release owner span = others :=
  release_of_apart fun lock member own => absurd own (foreign lock member)

theorem Foreign.release_append (foreign : others.Foreign owner) :
    (table ++ others).release owner span = table.release owner span ++ others := by
  rw [LockTable.release_append, foreign.release]

theorem Admits.request_append (admits : others.Admits owner kind span) :
    (table ++ others).request owner kind span = (table.request owner kind span).map (· ++ others) := by
  have free := admits.free
  rw [hinders] at free
  rw [request, request, List.any_append, free, Bool.or_false, admits.foreign.release_append]
  split <;> rfl

theorem request_append_of_hinders (hindered : others.hinders owner kind span = true) :
    (table ++ others).request owner kind span = none := by
  rw [hinders] at hindered
  rw [request, List.any_append, hindered, Bool.or_true]
  rfl

theorem Clear.admits (clear : others.Clear owner span) : others.Admits owner kind span where
  foreign lock member := (clear lock member).1
  free := by
    rw [hinders, List.any_eq_false]
    intro lock member
    rcases (clear lock member).2 with before | behind
    · simp [HeldLock.conflicts, HeldLock.overlaps, Nat.not_lt.mpr before]
    · simp [HeldLock.conflicts, HeldLock.overlaps, Nat.not_lt.mpr behind]

end LockTable

/-- The query does not look at the locks. -/
def Query.Blind (query : Query α) : Prop :=
  ∀ (content : Content) (table table' : LockTable),
    query ⟨content, table⟩ = query ⟨content, table'⟩

theorem Update.eq_blocked {update : Update α} {backing : Backing}
    (waits : (update backing).1 = .error .blocked) :
    update backing = (.error .blocked, (update backing).2) :=
  Prod.ext waits rfl

/-- Beside the others the update does what it does without them. -/
def Update.Beside (others : LockTable) (update : Update α) : Prop :=
  ∀ backing : Backing,
    update (backing.beside others) = ((update backing).1, (update backing).2.beside others)

/-- Beside the others the update does what it does without them, or it waits, where it may. -/
def Update.Heeds (others : LockTable) (mayWait : Prop) (update : Update α) : Prop :=
  ∀ backing : Backing, mayWait ∧ (update (backing.beside others)).1 = .error .blocked ∨
    update (backing.beside others) = ((update backing).1, (update backing).2.beside others)

theorem Update.Beside.heeds {others : LockTable} {mayWait : Prop} {update : Update α}
    (beside : update.Beside others) : update.Heeds others mayWait :=
  fun backing => .inr (beside backing)

theorem Update.Heeds.beside {others : LockTable} {update : Update α}
    (heeds : update.Heeds others False) : update.Beside others :=
  fun backing => (heeds backing).resolve_left fun waits => waits.1

namespace Query.Blind

theorem pure (value : α) : (Pure.pure value : Query α).Blind :=
  fun _ _ _ => rfl

theorem throw (error : FsError) : (MonadExcept.throw error : Query α).Blind :=
  fun _ _ _ => rfl

theorem halt (halt : Halt) : (Query.halt halt : Query α).Blind :=
  fun _ _ _ => rfl

theorem except (computed : Except FsError α) : (liftM computed : Query α).Blind :=
  fun _ _ _ => rfl

theorem bind {query : Query α} {next : α → Query β} (first : query.Blind)
    (second : ∀ value, (next value).Blind) : (query >>= next).Blind := by
  intro content table table'
  rw [Query.bind_apply, Query.bind_apply, first content table table']
  cases query ⟨content, table'⟩ with
  | ok value => exact second value content table table'
  | error halt => rfl

theorem ite {condition : Prop} [Decidable condition] {yes no : Query α} (holds : yes.Blind)
    (fails : no.Blind) : (if condition then yes else no).Blind := by
  split
  · exact holds
  · exact fails

theorem damageOr {query : Query α} (blind : query.Blind) : query.damageOr.Blind := by
  intro content table table'
  simp only [Query.damageOr, tryCatchThe, MonadExceptOf.tryCatch, ← bind_pure_comp, Query.bind_apply,
    blind content table table']
  rcases query ⟨content, table'⟩ with halt | value
  · cases halt with
    | failed error => cases error <;> rfl
    | crashed cause => rfl
    | blocked => rfl
  · rfl

theorem mapM {query : α → Query β} (blind : ∀ value, (query value).Blind) (values : List α) :
    (values.mapM query).Blind := by
  induction values with
  | nil => exact .pure []
  | cons value rest induction =>
      rw [List.mapM_cons]
      exact (blind value).bind fun _ => induction.bind fun _ => .pure _

end Query.Blind

theorem Update.Beside.ask {others : LockTable} {query : Query α} (blind : query.Blind) :
    (liftM query : Update α).Beside others :=
  fun backing => congrArg (·, backing.beside others) (blind _ _ _)

namespace Update.Heeds

variable {others : LockTable} {mayWait : Prop}

theorem pure (value : α) : (Pure.pure value : Update α).Heeds others mayWait :=
  fun _ => .inr rfl

theorem throw (error : FsError) : (MonadExcept.throw error : Update α).Heeds others mayWait :=
  fun _ => .inr rfl

theorem halt (halt : Halt) : (Update.halt halt : Update α).Heeds others mayWait :=
  fun _ => .inr rfl

theorem ask {query : Query α} (blind : query.Blind) :
    (liftM query : Update α).Heeds others mayWait :=
  (Update.Beside.ask blind).heeds

theorem except (computed : Except FsError α) :
    (liftM computed : Update α).Heeds others mayWait :=
  fun _ => .inr rfl

theorem bind {update : Update α} {next : α → Update β} (first : update.Heeds others mayWait)
    (second : ∀ value, (next value).Heeds others mayWait) :
    (update >>= next).Heeds others mayWait := by
  intro backing
  rw [Update.bind_apply, Update.bind_apply]
  rcases first backing with ⟨may, waits⟩ | same
  · refine .inl ⟨may, ?_⟩
    rw [Update.eq_blocked waits]
  · rw [same]
    rcases update backing with ⟨halt | value, after⟩
    · exact .inr rfl
    · exact second value after

theorem ite {condition : Prop} [Decidable condition] {yes no : Update α}
    (holds : yes.Heeds others mayWait) (fails : no.Heeds others mayWait) :
    (if condition then yes else no).Heeds others mayWait := by
  split
  · exact holds
  · exact fails

theorem tryCatch {update : Update α} {handler : FsError → Update α}
    (heeds : update.Heeds others mayWait) (handles : ∀ error, (handler error).Heeds others mayWait) :
    (tryCatchThe FsError update handler).Heeds others mayWait := by
  intro backing
  simp only [tryCatchThe, MonadExceptOf.tryCatch]
  rcases heeds backing with ⟨may, waits⟩ | same
  · refine .inl ⟨may, ?_⟩
    rw [Update.eq_blocked waits]
  · rw [same]
    rcases update backing with ⟨halt | value, after⟩
    · cases halt with
      | failed error => exact handles error after
      | crashed cause => exact .inr rfl
      | blocked => exact .inr rfl
    · exact .inr rfl

theorem attempt {update : Update α} (heeds : update.Heeds others mayWait) :
    update.attempt.Heeds others mayWait := by
  intro backing
  simp only [Update.attempt]
  rcases heeds backing with ⟨may, waits⟩ | same
  · refine .inl ⟨may, ?_⟩
    rw [Update.eq_blocked waits]
  · rw [same]
    rcases update backing with ⟨halt | value, after⟩
    · cases halt <;> exact .inr rfl
    · exact .inr rfl

/-- What comes after an update that does not wait may wait itself. -/
theorem ensuring {update : Update α} {cleanup : Update Unit} (heeds : update.Heeds others mayWait)
    (cleans : cleanup.Heeds others mayWait) : (update.ensuring cleanup).Heeds others mayWait := by
  intro backing
  simp only [Update.ensuring]
  rcases heeds backing with ⟨may, waits⟩ | same
  · refine .inl ⟨may, ?_⟩
    rw [Update.eq_blocked waits]
  · rw [same]
    -- the cleanup runs only when the update has ended
    rcases update backing with ⟨halt | value, after⟩
    · cases halt with
      | blocked => exact .inr rfl
      | failed error | crashed cause =>
          rcases cleans after with ⟨may, waits⟩ | same
          · refine .inl ⟨may, ?_⟩
            dsimp only
            rw [Update.eq_blocked waits]
          · simp only [same]
            rcases cleanup after with ⟨(_ | _ | _) | _, _⟩ <;> exact .inr rfl
    · rcases cleans after with ⟨may, waits⟩ | same
      · refine .inl ⟨may, ?_⟩
        dsimp only
        rw [Update.eq_blocked waits]
      · simp only [same]
        rcases cleanup after with ⟨(_ | _ | _) | _, _⟩ <;> exact .inr rfl

end Update.Heeds

/-! Devices -/

namespace Device

variable {device : Device} {others : LockTable} {mayWait : Prop}

theorem read_blind (offset count : Nat) : (device.read offset count).Blind :=
  (Query.Blind.except _).bind fun _ _ _ _ => rfl

theorem readWord_blind (offset : Nat) : (device.readWord offset).Blind :=
  (read_blind offset 8).bind fun _ => .pure _

theorem write_heeds (offset : Nat) (bytes : Bytes) :
    (device.write offset bytes).Heeds others mayWait :=
  (Update.Heeds.except _).bind fun _ _ => .inr rfl

theorem writeWord_heeds (offset value : Nat) :
    (device.writeWord offset value).Heeds others mayWait :=
  write_heeds offset _

variable {range : ByteRange} {kind : LockKind}

theorem unlock_heeds (foreign : ∀ span, range.span = .ok span → others.Foreign device.owner) :
    (device.unlock range).Heeds others mayWait := by
  rw [unlock]
  cases isSpan : range.span with
  | error error => exact fun _ => .inr rfl
  | ok span =>
      intro backing
      exact .inr (congrArg (fun locks => (Except.ok (), Backing.mk backing.content locks))
        (foreign span isSpan).release_append)

/-- Where nobody stands in the way only the owner's own locks count. -/
theorem lock_heeds_of_admits
    (admits : ∀ span, range.span = .ok span → others.Admits device.owner kind span) (wait : Bool) :
    (device.lock range kind wait).Heeds others mayWait := by
  cases isSpan : range.span with
  | error error =>
      rw [lock, isSpan]
      exact fun _ => .inr rfl
  | ok span =>
      intro backing
      right
      have request : (backing.beside others).locks.request device.owner kind span =
          (backing.locks.request device.owner kind span).map (· ++ others) :=
        (admits span isSpan).request_append
      cases asked : backing.locks.request device.owner kind span with
      | some locks =>
          rw [asked] at request
          rw [lock_granted isSpan asked, lock_granted isSpan request]
          rfl
      | none =>
          rw [asked] at request
          rw [lock_refused isSpan asked, lock_refused isSpan request]
          cases wait <;> rfl

theorem withLock_heeds_of_admits
    (admits : ∀ span, range.span = .ok span → others.Admits device.owner kind span)
    {body : Update α} (heeds : body.Heeds others mayWait) :
    (device.withLock range kind body).Heeds others mayWait :=
  ((lock_heeds_of_admits admits true).bind fun _ => .pure _).bind fun _ =>
    heeds.ensuring (unlock_heeds fun span isSpan => (admits span isSpan).foreign)

/-- A request that may wait does so when somebody stands in the way. -/
theorem lock_heeds (foreign : others.Foreign device.owner) :
    (device.lock range kind true).Heeds others True := by
  by_cases hindered : ∃ span, range.span = .ok span ∧ others.hinders device.owner kind span = true
  · obtain ⟨span, isSpan, hinders⟩ := hindered
    intro backing
    left
    rw [lock_refused isSpan (LockTable.request_append_of_hinders hinders)]
    exact ⟨trivial, rfl⟩
  · refine lock_heeds_of_admits (fun span isSpan => ⟨foreign, ?_⟩) true
    exact Bool.eq_false_iff.mpr fun hinders => hindered ⟨span, isSpan, hinders⟩

theorem withLock_heeds (foreign : others.Foreign device.owner) {body : Update α}
    (heeds : body.Heeds others True) : (device.withLock range kind body).Heeds others True :=
  ((lock_heeds foreign).bind fun _ => .pure _).bind fun _ =>
    heeds.ensuring (unlock_heeds fun _ _ => foreign)

end Device

/-! The directory lock -/

namespace DirectoryLock

variable {lock : DirectoryLock} {others : LockTable} {kind : LockKind} {mayWait : Prop}

/-- Somebody else's locks, beside which the lock can be taken. -/
structure FreeFor (lock : DirectoryLock) (kind : LockKind) (others : LockTable) : Prop where
  anchor : ∀ span, lock.anchor.span = .ok span → others.Admits lock.device.owner kind span
  counter : ∀ span, lock.counter.span = .ok span →
    others.Admits lock.device.owner .exclusive span

/-- Somebody else's locks, which touch neither the anchor's record nor the counter. -/
structure Clear (lock : DirectoryLock) (others : LockTable) : Prop where
  anchor : ∀ span, lock.anchor.span = .ok span → others.Clear lock.device.owner span
  counter : ∀ span, lock.counter.span = .ok span → others.Clear lock.device.owner span

theorem Clear.nil : lock.Clear [] where
  anchor _ _ _ member := by cases member
  counter _ _ _ member := by cases member

theorem Clear.freeFor (clear : lock.Clear others) : lock.FreeFor kind others where
  anchor span isSpan := (clear.anchor span isSpan).admits
  counter span isSpan := (clear.counter span isSpan).admits

namespace FreeFor

variable (free : lock.FreeFor kind others)

include free

theorem withCounter {body : Update α} (heeds : body.Heeds others mayWait) :
    (lock.withCounter .exclusive body).Heeds others mayWait :=
  Device.withLock_heeds_of_admits free.counter heeds

theorem request (wait : Bool) : (lock.request kind wait).Heeds others mayWait :=
  Device.lock_heeds_of_admits free.anchor wait

theorem registerWith {attempt : Update Bool} (heeds : attempt.Heeds others mayWait) :
    (lock.registerWith attempt).Heeds others mayWait := by
  refine free.withCounter ?_
  refine (Update.Heeds.ask (Device.readWord_blind _)).bind fun before => ?_
  refine .ite (.throw _) ?_
  refine (Device.writeWord_heeds _ _).bind fun _ => ?_
  refine .ite (heeds.tryCatch fun error => ?_) (.pure _)
  exact (Device.writeWord_heeds _ _).bind fun _ => .throw _

theorem decrement : lock.decrement.Heeds others mayWait := by
  refine free.withCounter ?_
  refine (Update.Heeds.ask (Device.readWord_blind _)).bind fun before => ?_
  exact .ite (Device.writeWord_heeds _ _) (.pure _)

theorem acquire : (lock.acquire kind).Heeds others mayWait := by
  refine (free.registerWith (free.request false)).bind fun fast => ?_
  refine .ite (Update.Heeds.tryCatch ?_ fun error => ?_) (.pure _)
  · exact (free.request true).bind fun _ => .pure _
  · exact (free.decrement.attempt.bind fun _ => .pure _).bind fun _ => .throw _

theorem release : lock.release.Heeds others mayWait := by
  have unlocks : (lock.device.unlock lock.anchor).Heeds others mayWait :=
    Device.unlock_heeds fun span isSpan => (free.anchor span isSpan).foreign
  refine unlocks.attempt.bind fun unlocked => ?_
  refine free.decrement.attempt.bind fun decremented => ?_
  exact (Update.Heeds.except unlocked).bind fun _ => .except decremented

theorem hold {body : Update α} (heeds : body.Heeds others mayWait) :
    (lock.hold kind body).Heeds others mayWait :=
  free.acquire.bind fun _ => heeds.ensuring free.release

end FreeFor

end DirectoryLock

namespace Volume

variable {volume : Volume} {others : LockTable}

theorem withDirectoryLock_heeds {kind : LockKind} {mayWait : Prop}
    (free : volume.directoryLock.FreeFor kind others) {body : Update α}
    (heeds : body.Heeds others mayWait) :
    (volume.withDirectoryLock kind body).Heeds others mayWait := by
  rw [withDirectoryLock, volume.directoryLock_of_volume]
  exact free.hold heeds

theorem withDirectoryLock_beside (clear : volume.directoryLock.Clear others) (kind : LockKind)
    {body : Update α} (beside : body.Beside others) :
    (volume.withDirectoryLock kind body).Beside others :=
  (withDirectoryLock_heeds clear.freeFor beside.heeds).beside

end Volume

end ImageFs
