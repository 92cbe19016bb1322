import ImageFs.Proofs.Beside
import ImageFs.Proofs.LockRounds

/-!
What the owner of a description does with its locks, whatever it has locked before and whatever the
others have. Main statements: it waits for one of them or leaves their locks as they are, and taking the
directory lock counts one holder more, giving it up one less, and a refused attempt none.
-/

namespace ImageFs

variable {α β : Type}

/-! The locks of the others -/

namespace LockTable

variable {others table granted : LockTable} {owner : Nat} {kind : LockKind} {span : Span}

theorem foreign_dropOwner (table : LockTable) (owner : Nat) : (table.dropOwner owner).Foreign owner :=
  fun _ member => of_decide_eq_true (List.mem_filter.mp member).2

theorem Foreign.dropOwner (foreign : others.Foreign owner) : others.dropOwner owner = others :=
  List.filter_eq_self.mpr fun lock member => decide_eq_true (foreign lock member)

theorem mem_of_mem_dropOwner {lock : HeldLock} (member : lock ∈ table.dropOwner owner) :
    lock ∈ table :=
  (List.mem_filter.mp member).1

theorem dropOwner_cons (lock : HeldLock) (table : LockTable) (owner : Nat) :
    dropOwner (lock :: table) owner =
      (if lock.owner = owner then [] else [lock]) ++ table.dropOwner owner := by
  rw [dropOwner, List.filter_cons]
  by_cases own : lock.owner = owner
  · rw [if_neg (by simp [own]), if_pos own]
    rfl
  · rw [if_pos (by simp [own]), if_neg own]
    rfl

theorem dropOwner_outside {lock : HeldLock} (own : lock.owner = owner) :
    dropOwner (lock.outside span) owner = [] := by
  refine List.filter_eq_nil_iff.mpr fun part member => ?_
  have same := (mem_outside member).1.trans own
  simp [same]

theorem dropOwner_release (table : LockTable) (owner : Nat) (span : Span) :
    (table.release owner span).dropOwner owner = table.dropOwner owner := by
  induction table with
  | nil => rfl
  | cons lock table induction =>
      have append (front back : LockTable) : dropOwner (front ++ back) owner =
          front.dropOwner owner ++ back.dropOwner owner := List.filter_append ..
      rw [release_cons, append, induction, dropOwner_cons]
      split
      · next own => rw [dropOwner_outside own]
      · next foreign => rw [dropOwner_cons, if_neg foreign]; rfl

theorem dropOwner_request (request : table.request owner kind span = some granted) :
    granted.dropOwner owner = table.dropOwner owner := by
  rw [LockTable.request] at request
  split at request
  · cases request
  · cases request
    rw [dropOwner_cons, if_pos rfl, dropOwner_release]
    rfl

/-- An owner does not stand in its own way. -/
theorem hinders_dropOwner (table : LockTable) (owner : Nat) (kind : LockKind) (span : Span) :
    (table.dropOwner owner).hinders owner kind span = table.hinders owner kind span := by
  induction table with
  | nil => rfl
  | cons lock table induction =>
      rw [hinders, hinders] at induction
      rw [dropOwner_cons, hinders, hinders, List.any_append, induction, List.any_cons]
      by_cases own : lock.owner = owner
      · have free : lock.conflicts owner kind span = false := by
          rw [HeldLock.conflicts, own, bne_self_eq_false, Bool.false_and, Bool.false_and]
        rw [if_pos own, free]
        rfl
      · rw [if_neg own, List.any_cons, List.any_nil, Bool.or_false]

end LockTable

/-! How an update of the owner ends -/

/-- Beside the locks of the others the owner's update waits, or it ends with the answer and leaves the
content and the locks of the others. -/
def Update.Ends (owner : Nat) (others : LockTable) (update : Update α) (before : Content)
    (answer : Except Halt α) (after : Content) : Prop :=
  ∀ table : LockTable, table.dropOwner owner = others →
    (update ⟨before, table⟩).1 = .error .blocked ∨
    ∃ table' : LockTable, table'.dropOwner owner = others ∧
      update ⟨before, table⟩ = (answer, ⟨after, table'⟩)

namespace Update.Ends

variable {owner : Nat} {others : LockTable} {before middle after : Content}

theorem pure (value : α) : (Pure.pure value : Update α).Ends owner others before (.ok value) before :=
  fun table same => .inr ⟨table, same, rfl⟩

theorem throw (error : FsError) : (MonadExcept.throw error : Update α).Ends owner others before
    (.error (.failed error)) before :=
  fun table same => .inr ⟨table, same, rfl⟩

/-- What does not look at the locks and leaves them alone. -/
theorem of_apply {update : Update α} {answer : Except Halt α}
    (runs : ∀ table, update ⟨before, table⟩ = (answer, ⟨after, table⟩)) :
    update.Ends owner others before answer after :=
  fun table same => .inr ⟨table, same, runs table⟩

theorem bind {update : Update α} {next : α → Update β} {value : α} {answer : Except Halt β}
    (first : update.Ends owner others before (.ok value) middle)
    (second : (next value).Ends owner others middle answer after) :
    (update >>= next).Ends owner others before answer after := by
  intro table same
  rw [Update.bind_apply]
  rcases first table same with waits | ⟨table', same', ends⟩
  · left
    rw [Update.eq_blocked waits]
  · rw [ends]
    exact second table' same'

theorem bind_error {update : Update α} {next : α → Update β} {halt : Halt}
    (first : update.Ends owner others before (.error halt) after) :
    (update >>= next).Ends owner others before (.error halt) after := by
  intro table same
  rw [Update.bind_apply]
  rcases first table same with waits | ⟨table', same', ends⟩
  · left
    rw [Update.eq_blocked waits]
  · rw [ends]
    exact .inr ⟨table', same', rfl⟩

theorem ite_pos {condition : Prop} [Decidable condition] {yes no : Update α}
    {answer : Except Halt α} (holds : condition)
    (branch : yes.Ends owner others before answer after) :
    (if condition then yes else no).Ends owner others before answer after := by
  rwa [if_pos holds]

theorem ite_neg {condition : Prop} [Decidable condition] {yes no : Update α}
    {answer : Except Halt α} (fails : ¬ condition)
    (branch : no.Ends owner others before answer after) :
    (if condition then yes else no).Ends owner others before answer after := by
  rwa [if_neg fails]

theorem tryCatch_ok {update : Update α} {handler : FsError → Update α} {value : α}
    (first : update.Ends owner others before (.ok value) after) :
    (tryCatch update handler).Ends owner others before (.ok value) after := by
  intro table same
  rcases first table same with waits | ⟨table', same', ends⟩
  · left
    rw [Update.tryCatch_blocked (Update.eq_blocked waits)]
  · exact .inr ⟨table', same', Update.tryCatch_ok ends⟩

theorem attempt_ok {update : Update α} {value : α}
    (first : update.Ends owner others before (.ok value) after) :
    update.attempt.Ends owner others before (.ok (.ok value)) after := by
  intro table same
  rcases first table same with waits | ⟨table', same', ends⟩
  · left
    rw [Update.attempt, Update.eq_blocked waits]
  · exact .inr ⟨table', same', Update.attempt_ok ends⟩

theorem ensuring {update : Update α} {cleanup : Update Unit} {answer : Except Halt α} {value : Unit}
    (runs : answer ≠ .error .blocked) (first : update.Ends owner others before answer middle)
    (cleans : cleanup.Ends owner others middle (.ok value) after) :
    (update.ensuring cleanup).Ends owner others before answer after := by
  intro table same
  rcases first table same with waits | ⟨table', same', ends⟩
  · left
    rw [Update.ensuring, Update.eq_blocked waits]
  · rcases cleans table' same' with waits | ⟨table'', same'', cleaned⟩
    · left
      rw [Update.ensuring, ends]
      split
      · rfl
      · next same =>
        cases same
        rw [Update.eq_blocked waits]
    · refine .inr ⟨table'', same'', ?_⟩
      refine (Update.ensuring_apply ends runs ?_).trans ?_
      · rw [cleaned]
        exact fun impossible => by cases impossible
      · rw [cleaned]

/-- An update that does not wait ends as it should. -/
theorem of_run {update : Update α} {answer ended : Except Halt α} {table : LockTable}
    {final : Backing} (ends : update.Ends owner (table.dropOwner owner) before answer after)
    (ran : update ⟨before, table⟩ = (ended, final)) (runs : ended ≠ .error .blocked) :
    ended = answer ∧ final.content = after ∧
      final.locks.dropOwner owner = table.dropOwner owner := by
  rcases ends table rfl with waits | ⟨table', same, isEnd⟩
  · rw [ran] at waits
    exact absurd waits runs
  · cases ran.symm.trans isEnd
    exact ⟨rfl, rfl, same⟩

end Update.Ends

/-! Devices -/

namespace Device

variable {device : Device} {others : LockTable} {range : ByteRange} {span : Span} {content : Content}

/-- A request that does not wait is granted unless one of the others stands in the way. -/
theorem lock_ends (isSpan : range.span = .ok span) (kind : LockKind) (wait : Bool) :
    (device.lock range kind wait).Ends device.owner others content
      (.ok (wait || !others.hinders device.owner kind span)) content := by
  intro table same
  have hinders := LockTable.hinders_dropOwner table device.owner kind span
  rw [same] at hinders
  rw [hinders]
  cases stands : table.hinders device.owner kind span with
  | false =>
      have granted := LockTable.request_of_free stands
      refine .inr ⟨_, (LockTable.dropOwner_request granted).trans same, ?_⟩
      rw [lock_granted isSpan granted, Bool.not_false, Bool.or_true]
  | true =>
      have refused : table.request device.owner kind span = none := if_pos stands
      rw [lock_refused isSpan refused]
      cases wait with
      | true => exact .inl rfl
      | false => exact .inr ⟨table, same, rfl⟩

theorem unlock_ends (isSpan : range.span = .ok span) :
    (device.unlock range).Ends device.owner others content (.ok ()) content := by
  intro table same
  refine .inr ⟨_, (LockTable.dropOwner_release table device.owner span).trans same, ?_⟩
  exact unlock_apply isSpan

/-- Whatever becomes of a request, it changes the owner's locks at most. -/
theorem lock_leaves {kind : LockKind} {wait : Bool} {answer : Except Halt Bool}
    {before after : Backing} (ran : device.lock range kind wait before = (answer, after)) :
    after.content = before.content ∧
      after.locks.dropOwner device.owner = before.locks.dropOwner device.owner := by
  cases isSpan : range.span with
  | error error =>
      rw [lock, isSpan] at ran
      cases ran
      exact ⟨rfl, rfl⟩
  | ok span =>
      cases requested : before.locks.request device.owner kind span with
      | some granted =>
          rw [lock_granted isSpan requested] at ran
          cases ran
          exact ⟨rfl, LockTable.dropOwner_request requested⟩
      | none =>
          rw [lock_refused isSpan requested] at ran
          cases wait <;> cases ran <;> exact ⟨rfl, rfl⟩

theorem unlock_leaves {answer : Except Halt Unit} {before after : Backing}
    (ran : device.unlock range before = (answer, after)) :
    after.content = before.content ∧
      after.locks.dropOwner device.owner = before.locks.dropOwner device.owner := by
  rw [unlock] at ran
  cases isSpan : range.span with
  | error error =>
      rw [isSpan] at ran
      cases ran
      exact ⟨rfl, rfl⟩
  | ok span =>
      rw [isSpan] at ran
      cases ran
      exact ⟨rfl, LockTable.dropOwner_release ..⟩

theorem withLock_ends (isSpan : range.span = .ok span) (kind : LockKind) {body : Update α}
    {answer : Except Halt α} {content' : Content} (runs : answer ≠ .error .blocked)
    (ends : body.Ends device.owner others content answer content') :
    (device.withLock range kind body).Ends device.owner others content answer content' := by
  have acquires : (device.acquire range kind).Ends device.owner others content (.ok ()) content :=
    Update.Ends.bind (lock_ends isSpan kind true) (.pure ())
  exact acquires.bind (ends.ensuring runs (unlock_ends isSpan))

theorem withLock_waits (isSpan : range.span = .ok span) {kind : LockKind} {table : LockTable}
    (hindered : table.hinders device.owner kind span = true) (body : Update α) :
    (device.withLock range kind body ⟨content, table⟩).1 = .error .blocked := by
  have refused : table.request device.owner kind span = none := if_pos hindered
  have waits := @lock_refused device range kind span ⟨content, table⟩ isSpan refused true
  exact congrArg Prod.fst (Update.bind_error (Update.bind_error waits))

/-- What leaves the locks alone leaves those of the others under a lock of the owner, and no lock of
the owner behind. -/
theorem withLock_foreign (isSpan : range.span = .ok span) (proper : span.first < span.stop)
    (kind : LockKind) {body : Update α} {answer : Except Halt α} {content' : Content}
    (foreign : others.Foreign device.owner) (ends : answer ≠ .error .blocked)
    (runs : ∀ table, body ⟨content, table⟩ = (answer, ⟨content', table⟩)) :
    (device.withLock range kind body ⟨content, others⟩).1 = .error .blocked ∨
      device.withLock range kind body ⟨content, others⟩ = (answer, ⟨content', others⟩) := by
  cases hindered : others.hinders device.owner kind span with
  | true => exact .inl (withLock_waits isSpan hindered body)
  | false =>
      right
      let own : HeldLock := { owner := device.owner, kind, span }
      have granted : others.request device.owner kind span = some (own :: others) := by
        rw [LockTable.request_of_free hindered, foreign.release]
      have acquired : device.acquire range kind ⟨content, others⟩ =
          (.ok (), ⟨content, own :: others⟩) := acquire_granted isSpan granted
      have released : LockTable.release (own :: others) device.owner span = others := by
        have gone : own.outside span = [] := HeldLock.outside_self proper
        rw [LockTable.release_cons, if_pos rfl, gone, foreign.release, List.nil_append]
      have unlocked : device.unlock range ⟨content', own :: others⟩ = (.ok (), ⟨content', others⟩) := by
        rw [unlock_apply isSpan]
        exact congrArg (fun locks => (Except.ok (), Backing.mk content' locks)) released
      rw [withLock, Update.bind_ok acquired]
      refine (Update.ensuring_apply (runs (own :: others)) ends ?_).trans ?_
      · rw [unlocked]
        exact fun impossible => by cases impossible
      · rw [unlocked]

end Device

/-! The directory lock -/

namespace DirectoryLock

variable {volume : Volume} {others : LockTable} {content : Content} {kind : LockKind}

/-- The others have a lock on the anchor that stands in the way. -/
def taken (volume : Volume) (others : LockTable) (kind : LockKind) : Bool :=
  others.hinders volume.device.owner kind (held volume volume.directoryLock.anchor kind).span

/-- The file with another count of holders. -/
def counted (volume : Volume) (content : Content) (count : Nat) : Content :=
  LockProtocol.counted volume.alone content count

theorem holders_counted {count : Nat} (bound : count < Limit.word64) :
    (counted volume content count).holders volume.geometry = count :=
  @LockProtocol.holders_counted _ volume.alone content _ bound

theorem disk_counted {count : Nat} : Disk.of volume.geometry (counted volume content count) =
    Disk.of volume.geometry content :=
  Disk.of_write_holders content

/-- Counting a holder in and out again changes nothing. -/
theorem counted_again (long : volume.geometry.imageLength ≤ content.size)
    (bound : content.holders volume.geometry < Limit.word64) {count : Nat} :
    counted volume (counted volume content count) (content.holders volume.geometry) = content :=
  (@LockProtocol.counted_counted _ volume.alone content long _ _ bound).trans
    (@LockProtocol.counted_holders _ volume.alone content long bound)

/-- Shared locks of the others on the anchor leave the lock free for one more that shares it. -/
theorem freeFor_shared (lockable : volume.geometry.imageLength ≤ Limit.hostOffset)
    (foreign : others.Foreign volume.device.owner)
    (shared : ∀ lock ∈ others, lock.kind = .shared ∧
      lock.span = (held volume volume.directoryLock.anchor .shared).span) :
    volume.directoryLock.FreeFor .shared others where
  anchor span _ := by
    refine ⟨foreign, List.any_eq_false.mpr fun lock member => ?_⟩
    simp [HeldLock.conflicts, (shared lock member).1]
  counter span isSpan := by
    cases (counter_span lockable).symm.trans isSpan
    refine LockTable.Clear.admits fun lock member => ⟨foreign lock member, .inl ?_⟩
    rw [(shared lock member).2]
    exact anchor_stop_le

section Counter

variable (lockable : volume.geometry.imageLength ≤ Limit.hostOffset)
  (long : volume.geometry.imageLength ≤ content.size)

include long in
theorem size_counted {count : Nat} : (counted volume content count).size = content.size :=
  @LockProtocol.size_counted _ volume.alone content long count

include lockable

theorem withCounter_ends {body : Update α} {answer : Except Halt α} {content' : Content}
    (runs : answer ≠ .error .blocked)
    (ends : body.Ends volume.device.owner others content answer content') :
    (volume.directoryLock.withCounter .exclusive body).Ends volume.device.owner others content answer
      content' :=
  Device.withLock_ends (counter_span lockable) .exclusive runs ends

theorem request_ends (kind : LockKind) (wait : Bool) :
    (volume.directoryLock.request kind wait).Ends volume.device.owner others content
      (.ok (wait || !taken volume others kind)) content :=
  Device.lock_ends (anchor_span lockable) kind wait

include long

/-- Reading the count does not look at the locks. -/
theorem readHolders_beside (table : LockTable) :
    (volume.directoryLock.readHolders : Update Nat) ⟨content, table⟩ =
      (.ok (content.holders volume.geometry), ⟨content, table⟩) :=
  @LockProtocol.readHolders_apply _ volume.alone () content table lockable long

theorem readHolders_ends : (volume.directoryLock.readHolders : Update Nat).Ends volume.device.owner
    others content (.ok (content.holders volume.geometry)) content :=
  .of_apply (readHolders_beside lockable long)

omit lockable long in
theorem writeHolders_beside (count : Nat) (table : LockTable) :
    volume.directoryLock.writeHolders count ⟨content, table⟩ =
      (.ok (), ⟨counted volume content count, table⟩) :=
  @LockProtocol.writeHolders_apply _ volume.alone () content table count

omit lockable long in
theorem writeHolders_ends (count : Nat) : (volume.directoryLock.writeHolders count).Ends
    volume.device.owner others content (.ok ()) (counted volume content count) :=
  .of_apply (writeHolders_beside count)

/-- Registering counts one holder more, and the first one has the lock unless it is taken. -/
theorem registerWith_ends (bound : content.holders volume.geometry + 1 < Limit.word64) :
    (volume.directoryLock.registerWith (volume.directoryLock.request kind false)).Ends
      volume.device.owner others content
      (.ok (content.holders volume.geometry = 0 && !taken volume others kind))
      (counted volume content (content.holders volume.geometry + 1)) := by
  refine withCounter_ends lockable (fun impossible => by cases impossible) ?_
  refine (readHolders_ends lockable long).bind ?_
  refine .ite_neg (Nat.not_le.mpr bound) ((writeHolders_ends _).bind ?_)
  by_cases none : content.holders volume.geometry = 0
  · rw [decide_eq_true none, Bool.true_and]
    exact .ite_pos none (request_ends lockable kind false).tryCatch_ok
  · rw [decide_eq_false none, Bool.false_and]
    exact .ite_neg none (.pure false)

theorem registerWith_full (attempt : Update Bool)
    (full : Limit.word64 ≤ content.holders volume.geometry + 1) :
    (volume.directoryLock.registerWith attempt).Ends volume.device.owner others content
      (.error (.failed (.corrupt volume.geometry.anchorBlock .tooManyHolders))) content := by
  refine withCounter_ends lockable (fun impossible => by cases impossible) ?_
  refine (readHolders_ends lockable long).bind ?_
  exact .ite_pos full (.throw _)

theorem decrement_ends (counts : content.holders volume.geometry ≠ 0) :
    volume.directoryLock.decrement.Ends volume.device.owner others content (.ok ())
      (counted volume content (content.holders volume.geometry - 1)) := by
  refine withCounter_ends lockable (fun impossible => by cases impossible) ?_
  refine (readHolders_ends lockable long).bind ?_
  exact .ite_pos counts (writeHolders_ends (content.holders volume.geometry - 1))

/-- A holder that has been counted is counted out again. -/
theorem unregister_ends (bound : content.holders volume.geometry + 1 < Limit.word64) :
    volume.directoryLock.unregister.Ends volume.device.owner others
      (counted volume content (content.holders volume.geometry + 1)) (.ok ()) content := by
  have long' : volume.geometry.imageLength ≤
      (counted volume content (content.holders volume.geometry + 1)).size :=
    (size_counted long).symm ▸ long
  have counts := @holders_counted volume content _ bound
  have countsOut := @decrement_ends volume others _ lockable long' (by rw [counts]; omega)
  rw [counts, Nat.add_sub_cancel, counted_again long (Nat.lt_of_succ_lt bound)] at countsOut
  exact countsOut.attempt_ok.bind (.pure ())

/-- The lock is taken beside the others, as far as one need not wait for them. -/
theorem acquire_ends (bound : content.holders volume.geometry + 1 < Limit.word64) :
    (volume.directoryLock.acquire kind).Ends volume.device.owner others content (.ok ())
      (counted volume content (content.holders volume.geometry + 1)) := by
  refine (registerWith_ends lockable long bound).bind ?_
  cases content.holders volume.geometry = 0 && !taken volume others kind with
  | true => exact .pure ()
  | false =>
      refine Update.Ends.tryCatch_ok ?_
      exact (request_ends lockable kind true).bind (.pure ())

theorem acquire_full (full : Limit.word64 ≤ content.holders volume.geometry + 1) :
    (volume.directoryLock.acquire kind).Ends volume.device.owner others content
      (.error (.failed (.corrupt volume.geometry.anchorBlock .tooManyHolders))) content :=
  (registerWith_full lockable long _ full).bind_error

/-- Where one of the others has taken the lock, one waits for it. -/
theorem acquire_waits (bound : content.holders volume.geometry + 1 < Limit.word64)
    {table : LockTable} (isTaken : taken volume (table.dropOwner volume.device.owner) kind = true) :
    (volume.directoryLock.acquire kind ⟨content, table⟩).1 = .error .blocked := by
  have registers := @registerWith_ends volume _ content kind lockable long bound table rfl
  rw [isTaken, Bool.not_true, Bool.and_false] at registers
  rw [acquire, acquireWith, Update.bind_apply]
  rcases registers with waits | ⟨table', same, registered⟩
  · rw [Update.eq_blocked waits]
  · have refused : table'.request volume.device.owner kind
        (held volume volume.directoryLock.anchor kind).span = none := by
      refine if_pos ?_
      have hinders := LockTable.hinders_dropOwner table' volume.device.owner kind
        (held volume volume.directoryLock.anchor kind).span
      rw [same] at hinders
      exact hinders.symm.trans isTaken
    have asks := @Device.lock_refused volume.device volume.directoryLock.anchor kind _
      ⟨counted volume content (content.holders volume.geometry + 1), table'⟩ (anchor_span lockable)
      refused true
    rw [registered]
    exact congrArg Prod.fst (Update.tryCatch_blocked (Update.bind_error asks))

/-- An attempt that is refused leaves the count as it was. -/
theorem tryAcquire_ends (bound : content.holders volume.geometry + 1 < Limit.word64) :
    (volume.directoryLock.tryAcquire kind).Ends volume.device.owner others content
      (.ok !taken volume others kind)
      (if taken volume others kind then content
        else counted volume content (content.holders volume.geometry + 1)) := by
  have registers := @registerWith_ends volume others content kind lockable long bound
  have asks := @request_ends volume others
    (counted volume content (content.holders volume.geometry + 1)) lockable kind false
  cases isTaken : taken volume others kind with
  | false =>
      rw [isTaken, Bool.not_false] at asks
      rw [isTaken, Bool.not_false, Bool.and_true] at registers
      refine registers.bind ?_
      by_cases none : content.holders volume.geometry = 0
      · rw [decide_eq_true none]
        exact .pure true
      · rw [decide_eq_false none]
        exact asks.bind (.pure true)
  | true =>
      rw [isTaken, Bool.not_true] at asks
      rw [isTaken, Bool.not_true, Bool.and_false] at registers
      refine registers.bind (asks.bind ?_)
      exact (unregister_ends lockable long bound).bind (.pure false)

theorem tryAcquire_full (full : Limit.word64 ≤ content.holders volume.geometry + 1) :
    (volume.directoryLock.tryAcquire kind).Ends volume.device.owner others content
      (.error (.failed (.corrupt volume.geometry.anchorBlock .tooManyHolders))) content :=
  (registerWith_full lockable long _ full).bind_error

theorem release_ends (counts : content.holders volume.geometry ≠ 0) :
    volume.directoryLock.release.Ends volume.device.owner others content (.ok ())
      (counted volume content (content.holders volume.geometry - 1)) := by
  have unlocks : (volume.directoryLock.device.unlock volume.directoryLock.anchor).Ends
      volume.device.owner others content (.ok ()) content :=
    Device.unlock_ends (anchor_span lockable)
  refine unlocks.attempt_ok.bind ?_
  refine (decrement_ends lockable long counts).attempt_ok.bind ?_
  exact (Update.Ends.pure ()).bind (.pure ())

theorem registerWith_foreign (foreign : others.Foreign volume.device.owner)
    (full : Limit.word64 ≤ content.holders volume.geometry + 1) (attempt : Update Bool) :
    (volume.directoryLock.registerWith attempt ⟨content, others⟩).1 = .error .blocked ∨
      volume.directoryLock.registerWith attempt ⟨content, others⟩ =
        (.error (.failed (.corrupt volume.geometry.anchorBlock .tooManyHolders)),
          ⟨content, others⟩) := by
  refine Device.withLock_foreign (counter_span lockable) (Nat.lt_add_of_pos_right (Nat.succ_pos 7))
    .exclusive foreign (fun impossible => by cases impossible) fun table => ?_
  refine (Update.bind_ok (readHolders_beside lockable long table)).trans ?_
  rw [if_pos full]
  rfl

theorem holders_foreign (foreign : others.Foreign volume.device.owner) :
    (volume.directoryLock.holders ⟨content, others⟩).1 = .error .blocked ∨
      volume.directoryLock.holders ⟨content, others⟩ =
        (.ok (content.holders volume.geometry), ⟨content, others⟩) :=
  Device.withLock_foreign (counter_span lockable) (Nat.lt_add_of_pos_right (Nat.succ_pos 7))
    .shared foreign (fun impossible => by cases impossible) (readHolders_beside lockable long)

/-- Without locks of its own the owner waits for the lock, or the counter is at its end and nothing
happens, or nobody stands in the way. -/
theorem acquire_cases (foreign : others.Foreign volume.device.owner) (kind : LockKind) :
    (volume.directoryLock.acquire kind ⟨content, others⟩).1 = .error .blocked ∨
    (∃ error, volume.directoryLock.acquire kind ⟨content, others⟩ =
      (.error (.failed error), ⟨content, others⟩)) ∨
    content.holders volume.geometry + 1 < Limit.word64 ∧
      volume.directoryLock.FreeFor kind others := by
  have counterSpan := @counter_span volume lockable
  cases hindered : others.hinders volume.device.owner .exclusive
      (held volume volume.directoryLock.counter .shared).span with
  | true =>
      left
      refine congrArg Prod.fst (Update.bind_error (Update.eq_blocked ?_))
      exact Device.withLock_waits counterSpan hindered _
  | false =>
      by_cases bound : content.holders volume.geometry + 1 < Limit.word64
      · cases isTaken : taken volume others kind with
        | true =>
            left
            refine acquire_waits lockable long bound ?_
            rwa [foreign.dropOwner]
        | false =>
            refine .inr (.inr ⟨bound, fun span isSpan => ?_, fun span isSpan => ?_⟩)
            · cases (anchor_span lockable).symm.trans isSpan
              exact ⟨foreign, isTaken⟩
            · cases counterSpan.symm.trans isSpan
              exact ⟨foreign, hindered⟩
      · rcases registerWith_foreign lockable long foreign (Nat.not_lt.mp bound)
          (volume.directoryLock.request kind false) with waits | fails
        · exact .inl (congrArg Prod.fst (Update.bind_error (Update.eq_blocked waits)))
        · exact .inr (.inl ⟨_, Update.bind_error fails⟩)

end Counter

end DirectoryLock

end ImageFs
