import ImageFs.Proofs.OwnLocks
import ImageFs.Proofs.Session

/-!
Attempts on the anchor that may be granted, refused or fail, whatever the locks are. Main statement: who
has been counted in and does not get the directory lock has been counted out again, except after an
attempt without waiting that fails once the counter is given up.
-/

namespace ImageFs

variable {α β : Type}

/-! What an update leaves of the content -/

/-- Whatever is locked, the answer and the content after it are so related. -/
def Update.Leaves (update : Update α) (before : Content) (leaves : Except Halt α → Content → Prop) :
    Prop :=
  ∀ locks, leaves (update ⟨before, locks⟩).1 (update ⟨before, locks⟩).2.content

/-- The update may change the locks, and nothing else. -/
def Update.KeepsContent (update : Update α) : Prop :=
  ∀ before, update.Leaves before fun _ after => after = before

namespace Update.Leaves

variable {before middle : Content} {leaves : Except Halt α → Content → Prop}

theorem of_run {update : Update α} {locks : LockTable} {answer : Except Halt α} {after : Backing}
    (left : update.Leaves before leaves) (ran : update ⟨before, locks⟩ = (answer, after)) :
    leaves answer after.content := by
  have here := left locks
  rwa [ran] at here

/-- After a step that does not look at the locks. -/
theorem bind_apply {first : Update β} {value : β} {next : β → Update α}
    (runs : ∀ locks, first ⟨before, locks⟩ = (.ok value, ⟨middle, locks⟩))
    (left : (next value).Leaves middle leaves) : (first >>= next).Leaves before leaves := by
  intro locks
  rw [Update.bind_ok (runs locks)]
  exact left locks

/-- An update under a lock leaves what it does without, as far as nothing has to wait. -/
theorem withLock {device : Device} {range : ByteRange} {span : Span}
    (isSpan : range.span = .ok span) (kind : LockKind) {body : Update α}
    (stuck : ∀ after, leaves (.error .blocked) after) (left : body.Leaves before leaves) :
    (device.withLock range kind body).Leaves before leaves := by
  intro locks
  cases hindered : locks.hinders device.owner kind span with
  | true =>
      rw [@Device.withLock_waits α device range span before isSpan kind locks hindered body]
      exact stuck _
  | false =>
      let granted : LockTable :=
        { owner := device.owner, kind, span } :: locks.release device.owner span
      have acquired : device.acquire range kind ⟨before, locks⟩ = (.ok (), ⟨before, granted⟩) :=
        Device.acquire_granted isSpan (LockTable.request_of_free hindered)
      have locked : device.withLock range kind body ⟨before, locks⟩ =
          body.ensuring (device.unlock range) ⟨before, granted⟩ := Update.bind_ok acquired
      rw [locked]
      rcases ran : body ⟨before, granted⟩ with ⟨answer, between⟩
      by_cases waits : answer = .error .blocked
      · subst waits
        rw [Update.ensuring, ran]
        exact stuck between.content
      · have unlocked := @Device.unlock_apply device range span between isSpan
        have cleans : (device.unlock range between).1 ≠ .error .blocked := by
          rw [unlocked]
          exact fun impossible => by cases impossible
        have ended : leaves answer between.content := left.of_run ran
        rw [Update.ensuring_apply ran waits cleans, unlocked]
        exact ended

end Update.Leaves

namespace DirectoryLock

variable {volume : Volume} {table : LockTable} {content : Content} {attempt waiting : Update Bool}

/-- What a registration leaves: one holder more, or after a failure as many as before. -/
inductive Registered (volume : Volume) (before : Content) : Except Halt Bool → Content → Prop where
  | counts (fast : Bool) : Registered volume before (.ok fast)
      (counted volume before (before.holders volume.geometry + 1))
  | fails (error : FsError) : Registered volume before (.error (.failed error)) before
  | crashes (cause : Crash) (after : Content) : Registered volume before (.error (.crashed cause)) after
  | waits (after : Content) : Registered volume before (.error .blocked) after

/-- What becomes of an attempt without waiting: one that fails once it is registered stays counted. -/
inductive Tried (volume : Volume) (attempt : Update Bool) (start : Backing) :
    Except Halt Bool → Backing → Prop where
  | granted (after : Backing) : Tried volume attempt start (.ok true) after
  | refused {after : Backing} (same : after.content = start.content) :
      Tried volume attempt start (.ok false) after
  | unregistered (error : FsError) {after : Backing}
      (registers : volume.directoryLock.registerWith attempt start = (.error (.failed error), after))
      (same : after.content = start.content) : Tried volume attempt start (.error (.failed error)) after
  | fails (error : FsError) {between after : Backing}
      (registers : volume.directoryLock.registerWith attempt start = (.ok false, between))
      (attempts : attempt between = (.error (.failed error), after))
      (counts : after.content =
        counted volume start.content (start.content.holders volume.geometry + 1)) :
      Tried volume attempt start (.error (.failed error)) after
  | crashes (cause : Crash) (after : Backing) :
      Tried volume attempt start (.error (.crashed cause)) after
  | waits (after : Backing) : Tried volume attempt start (.error .blocked) after

/-- A registration that does not bring the lock stays counted when the attempt fails. -/
theorem tryAcquireWith_error {start between after : Backing} {halt : Halt}
    (registered : volume.directoryLock.registerWith attempt start = (.ok false, between))
    (attempted : attempt between = (.error halt, after)) :
    volume.directoryLock.tryAcquireWith attempt start = (.error halt, after) :=
  (Update.bind_ok registered).trans (Update.bind_error attempted)

section Counter

variable (lockable : volume.geometry.imageLength ≤ Limit.hostOffset)
  (long : volume.geometry.imageLength ≤ content.size)
  (bound : content.holders volume.geometry + 1 < Limit.word64)

include lockable long bound

theorem registerWith_registered (keeps : attempt.KeepsContent) :
    (volume.directoryLock.registerWith attempt).Leaves content (Registered volume content) := by
  let once := counted volume content (content.holders volume.geometry + 1)
  refine .withLock (counter_span lockable) .exclusive .waits ?_
  refine .bind_apply (readHolders_beside lockable long) ?_
  rw [if_neg (Nat.not_le.mpr bound)]
  refine .bind_apply (writeHolders_beside (content.holders volume.geometry + 1)) ?_
  by_cases first : content.holders volume.geometry = 0
  · rw [if_pos first]
    intro locks
    rcases attempted : attempt ⟨once, locks⟩ with ⟨(error | cause | _) | fast, after, locks'⟩
    · obtain rfl : after = once := (keeps once).of_run attempted
      have writesBack := @writeHolders_beside volume once (content.holders volume.geometry) locks'
      rw [counted_again long (Nat.lt_of_succ_lt bound)] at writesBack
      rw [Update.tryCatch_error attempted, Update.bind_ok writesBack]
      exact .fails error
    · rw [Update.tryCatch_crashed attempted]
      exact .crashes cause after
    · rw [Update.tryCatch_blocked attempted]
      exact .waits after
    · obtain rfl : after = once := (keeps once).of_run attempted
      rw [Update.tryCatch_ok attempted]
      exact .counts fast
  · rw [if_neg first]
    exact fun _ => .counts false

/-- Whoever fails to take the lock is not counted. -/
theorem acquireWith_fails (keeps : attempt.KeepsContent) (keeps' : waiting.KeepsContent)
    {error : FsError} {after : Backing}
    (ran : volume.directoryLock.acquireWith attempt waiting ⟨content, table⟩ =
      (.error (.failed error), after)) : after.content = content := by
  have registers := @registerWith_registered volume content attempt lockable long bound keeps
  rcases registered : volume.directoryLock.registerWith attempt ⟨content, table⟩ with
    ⟨halt | fast, between, locks⟩
  · cases (Update.bind_error registered).symm.trans ran
    cases registers.of_run registered
    rfl
  · let once := counted volume content (content.holders volume.geometry + 1)
    obtain rfl : between = once := by
      cases registers.of_run registered
      rfl
    have asks := (Update.bind_ok registered).symm.trans ran
    cases fast with
    | true => cases asks
    | false =>
        rcases waited : waiting ⟨once, locks⟩ with ⟨(error' | cause | _) | granted, final, locks'⟩
        · obtain rfl : final = once := (keeps' once).of_run waited
          have ends := (Update.tryCatch_error (Update.bind_error waited)).symm.trans asks
          have countsOut :
              (volume.directoryLock.unregister >>= fun _ => throw error' : Update Unit).Ends
                volume.device.owner (locks'.dropOwner volume.device.owner) once
                (.error (.failed error')) content :=
            (unregister_ends lockable long bound).bind (.throw error')
          exact (countsOut.of_run ends nofun).2.1
        · cases (Update.tryCatch_crashed (Update.bind_error waited)).symm.trans asks
        · cases (Update.tryCatch_blocked (Update.bind_error waited)).symm.trans asks
        · have takes : (waiting >>= fun _ => pure () : Update Unit) ⟨once, locks⟩ =
              (.ok (), ⟨final, locks'⟩) :=
            Update.bind_ok waited
          cases (Update.tryCatch_ok takes).symm.trans asks

theorem tryAcquireWith_tried (keeps : attempt.KeepsContent) {answer : Except Halt Bool}
    {after : Backing}
    (ran : volume.directoryLock.tryAcquireWith attempt ⟨content, table⟩ = (answer, after)) :
    Tried volume attempt ⟨content, table⟩ answer after := by
  have registers := @registerWith_registered volume content attempt lockable long bound keeps
  rcases registered : volume.directoryLock.registerWith attempt ⟨content, table⟩ with
    ⟨(error | cause | _) | fast, between, locks⟩
  · cases (Update.bind_error registered).symm.trans ran
    cases registers.of_run registered
    exact .unregistered error registered rfl
  · cases (Update.bind_error registered).symm.trans ran
    exact .crashes cause _
  · cases (Update.bind_error registered).symm.trans ran
    exact .waits _
  · let once := counted volume content (content.holders volume.geometry + 1)
    obtain rfl : between = once := by
      cases registers.of_run registered
      rfl
    have asks := (Update.bind_ok registered).symm.trans ran
    cases fast with
    | true =>
        cases asks
        exact .granted _
    | false =>
        rcases attempted : attempt ⟨once, locks⟩ with ⟨(error | cause | _) | granted, final, locks'⟩
        · cases (Update.bind_error attempted).symm.trans asks
          exact .fails error registered attempted ((keeps once).of_run attempted)
        · cases (Update.bind_error attempted).symm.trans asks
          exact .crashes cause _
        · cases (Update.bind_error attempted).symm.trans asks
          exact .waits _
        · obtain rfl : final = once := (keeps once).of_run attempted
          have ends := (Update.bind_ok attempted).symm.trans asks
          cases granted with
          | true =>
              cases ends
              exact .granted _
          | false =>
              have countsOut :
                  (volume.directoryLock.unregister >>= fun _ => pure false : Update Bool).Ends
                    volume.device.owner (locks'.dropOwner volume.device.owner) once (.ok false) content :=
                (unregister_ends lockable long bound).bind (.pure false)
              rcases countsOut locks' rfl with waits | ⟨_, _, isEnd⟩
              · cases (congrArg Prod.fst ends).symm.trans waits
                exact .waits after
              · cases isEnd.symm.trans ends
                exact .refused rfl

/-- Whoever is left without the lock is not counted, unless the attempt without waiting fails after the
registration. -/
theorem unguarded_counts (keeps : attempt.KeepsContent) (keeps' : waiting.KeepsContent) :
    (∀ error after, volume.directoryLock.acquireWith attempt waiting ⟨content, table⟩ =
        (.error (.failed error), after) → after.content = content) ∧
    (∀ after, volume.directoryLock.tryAcquireWith attempt ⟨content, table⟩ = (.ok false, after) →
        after.content = content) ∧
    ∀ error after, volume.directoryLock.tryAcquireWith attempt ⟨content, table⟩ =
        (.error (.failed error), after) →
      volume.directoryLock.registerWith attempt ⟨content, table⟩ = (.error (.failed error), after) ∧
          after.content = content ∨
        ∃ between, volume.directoryLock.registerWith attempt ⟨content, table⟩ = (.ok false, between) ∧
          attempt between = (.error (.failed error), after) ∧
          after.content = counted volume content (content.holders volume.geometry + 1) := by
  refine ⟨fun error after ran => acquireWith_fails lockable long bound keeps keeps' ran, ?_, ?_⟩
  · intro after ran
    cases tryAcquireWith_tried lockable long bound keeps ran with
    | refused same => exact same
  · intro error after ran
    cases tryAcquireWith_tried lockable long bound keeps ran with
    | unregistered _ registers same => exact .inl ⟨registers, same⟩
    | fails _ registers attempts counts => exact .inr ⟨_, registers, attempts, counts⟩

end Counter

theorem request_keepsContent (kind : LockKind) (wait : Bool) :
    (volume.directoryLock.request kind wait).KeepsContent :=
  fun _ _ => (Device.lock_leaves rfl).1

/-- On a file without locks, whoever is not the first to register makes no attempt meanwhile. -/
theorem registerWith_later (lockable : volume.geometry.imageLength ≤ Limit.hostOffset)
    (long : volume.geometry.imageLength ≤ content.size)
    (bound : content.holders volume.geometry + 1 < Limit.word64)
    (later : content.holders volume.geometry ≠ 0) (attempt : Update Bool) :
    volume.directoryLock.registerWith attempt ⟨content, []⟩ =
      (.ok false, ⟨counted volume content (content.holders volume.geometry + 1), []⟩) :=
  @LockProtocol.registerWith_apply _ volume.alone () content [] [] lockable long nofun attempt false
    bound nofun (fun first => absurd first later) fun _ => ⟨rfl, rfl⟩

/-- The host has run out of locks when a second party asks for one: the second party stays counted. -/
theorem unguarded_counts_stale :
    let volume := Session.smallest.volume 0
    let content := counted volume (Content.empty.resize volume.geometry.imageLength) 1
    let attempt : Update Bool := throw (.host (.system 37))
    content.holders volume.geometry = 1 ∧
    ∃ after, volume.directoryLock.tryAcquireWith attempt ⟨content, []⟩ =
        (.error (.failed (.host (.system 37))), after) ∧
      after.content.holders volume.geometry = 2 := by
  intro volume content attempt
  have lockable : volume.geometry.imageLength ≤ Limit.hostOffset := by decide
  have one : content.holders volume.geometry = 1 := holders_counted (by decide)
  have long : volume.geometry.imageLength ≤ content.size := by
    have blank : volume.geometry.imageLength ≤
        (Content.empty.resize volume.geometry.imageLength).size := Nat.le_refl _
    exact (size_counted blank).symm ▸ blank
  have bound : content.holders volume.geometry + 1 < Limit.word64 := by
    rw [one]
    decide
  have later : content.holders volume.geometry ≠ 0 := by
    rw [one]
    decide
  have keeps : attempt.KeepsContent := fun _ _ => rfl
  have registered := registerWith_later lockable long bound later attempt
  have ran := tryAcquireWith_error registered rfl
  obtain ⟨-, -, fails⟩ := unguarded_counts lockable long bound keeps
    (@request_keepsContent volume .exclusive true)
  refine ⟨one, _, ran, ?_⟩
  rcases fails _ _ ran with ⟨impossible, -⟩ | ⟨between, -, -, counts⟩
  · cases registered.symm.trans impossible
  · rw [counts, holders_counted bound, one]

end DirectoryLock

end ImageFs
