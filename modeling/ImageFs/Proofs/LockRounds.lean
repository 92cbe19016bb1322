import ImageFs.Proofs.LockSections

/-!
A whole round on the directory lock, among others that keep their locks on the anchor. Main statement:
where nobody stands in the way, what runs under the lock is counted in, runs beside the locks of the
others and is counted out.
-/

namespace ImageFs

namespace LockProtocol

variable {Party : Type} {α : Type} {parties : Parties Party} {party : Party}
  {content content' : Content} {table : LockTable} {kind : LockKind}

theorem counted_counted (long : parties.geometry.imageLength ≤ content.size) {count count' : Nat}
    (bound : count' < Limit.word64) :
    counted parties (counted parties content count) count' = counted parties content count' := by
  refine @Disk.content_eq parties.geometry _ _ ?_ ?_ ?_
  · rw [size_counted (size_counted long ▸ long), size_counted long, size_counted long]
  · rw [holders_counted bound, holders_counted bound]
  · rw [counted, counted, counted, Disk.of_write_holders, Disk.of_write_holders,
      Disk.of_write_holders]

theorem disk_counted {count : Nat} : Disk.of parties.geometry (counted parties content count) =
    Disk.of parties.geometry content :=
  Disk.of_write_holders content

/-- Counting the holders that there are changes nothing. -/
theorem counted_holders (long : parties.geometry.imageLength ≤ content.size)
    (bound : content.holders parties.geometry < Limit.word64) :
    counted parties content (content.holders parties.geometry) = content := by
  refine @Disk.content_eq parties.geometry _ _ (size_counted long) ?_ disk_counted
  exact holders_counted bound

theorem withDirectoryLock_eq (kind : LockKind) (body : Update α) :
    (parties.volume party).withDirectoryLock kind body = (parties.lock party).hold kind body := by
  rw [Volume.withDirectoryLock, Volume.directoryLock_of_volume]
  rfl

section Round

variable (lockable : parties.geometry.imageLength ≤ Limit.hostOffset)
  (long : parties.geometry.imageLength ≤ content.size) (anchored : Anchored parties table)
  (without : Without parties table party)

include lockable long anchored

theorem acquire_full (full : Limit.word64 ≤ content.holders parties.geometry + 1) :
    (parties.lock party).acquire kind ⟨content, table⟩ =
      (.error (.failed (.corrupt parties.geometry.anchorBlock .tooManyHolders)),
        ⟨content, table⟩) :=
  Update.bind_error (registerWith_overflow lockable long anchored _ full)

include without

theorem acquire_apply (bound : content.holders parties.geometry + 1 < Limit.word64)
    (free : conflicted parties table party kind = false) :
    (parties.lock party).acquire kind ⟨content, table⟩ =
      (.ok (), ⟨counted parties content (content.holders parties.geometry + 1),
        parties.held party kind :: table⟩) := by
  have registers := @registerWith_request _ _ _ _ _ kind lockable long anchored without bound
  rw [free] at registers
  refine (Update.bind_ok registers).trans ?_
  cases decide (content.holders parties.geometry = 0) with
  | true => rfl
  | false =>
      have asks : (parties.lock party).request kind true
          ⟨counted parties content (content.holders parties.geometry + 1), table⟩ = _ :=
        request_apply lockable without true
      rw [free] at asks
      exact Update.tryCatch_ok (Update.bind_ok asks)

theorem release_apply (counts : content.holders parties.geometry ≠ 0) :
    (parties.lock party).release ⟨content, parties.held party kind :: table⟩ =
      (.ok (), ⟨counted parties content (content.holders parties.geometry - 1), table⟩) := by
  have freed : LockTable.release (parties.held party kind :: table) (parties.device party).owner
      (parties.held party .shared).span = table := by
    have gone : (parties.held party kind).outside (parties.held party .shared).span = [] :=
      HeldLock.outside_self held_proper
    rw [LockTable.release_cons, if_pos (owner_held parties party kind), gone,
      LockTable.release_of_apart fun lock member own => .inr (without lock member own),
      List.nil_append]
  have unlocks := @unlock_apply _ parties party content (parties.held party kind :: table) lockable
  rw [freed] at unlocks
  refine (Update.bind_ok (Update.attempt_ok unlocks)).trans ?_
  exact Update.bind_ok (Update.attempt_ok (decrement_apply lockable long anchored counts))

/-- What ends under the lock, with the count that it had and the locks that there were, leaves the
count and the locks as they were before. -/
theorem hold_apply {body : Update α} {answer : Except Halt α}
    (bound : content.holders parties.geometry + 1 < Limit.word64)
    (free : conflicted parties table party kind = false) (ends : answer ≠ .error .blocked)
    (runs : body ⟨counted parties content (content.holders parties.geometry + 1),
        parties.held party kind :: table⟩ =
      (answer, ⟨content', parties.held party kind :: table⟩))
    (size : content'.size = content.size)
    (counts : content'.holders parties.geometry = content.holders parties.geometry + 1) :
    (parties.lock party).hold kind body ⟨content, table⟩ =
      (answer, ⟨counted parties content' (content.holders parties.geometry), table⟩) := by
  have releases := @release_apply _ parties party content' table kind lockable (size ▸ long) anchored
    without (counts ▸ Nat.succ_ne_zero _)
  rw [counts, Nat.add_sub_cancel] at releases
  rw [DirectoryLock.hold, Update.bind_ok (acquire_apply lockable long anchored without bound free)]
  refine (Update.ensuring_apply runs ends ?_).trans ?_
  · rw [releases]
    exact fun impossible => by cases impossible
  · rw [releases]

/-- What only asks under the lock finds one holder more, and leaves the file as it is. -/
theorem hold_ask {query : Query α} {answer : Except Halt α}
    (bound : content.holders parties.geometry + 1 < Limit.word64)
    (free : conflicted parties table party kind = false) (ends : answer ≠ .error .blocked)
    (answered : query ⟨counted parties content (content.holders parties.geometry + 1),
      parties.held party kind :: table⟩ = answer) :
    (parties.lock party).hold kind (query : Update α) ⟨content, table⟩ =
      (answer, ⟨content, table⟩) := by
  have runs : (query : Update α) ⟨counted parties content (content.holders parties.geometry + 1),
      parties.held party kind :: table⟩ =
        (answer, ⟨_, parties.held party kind :: table⟩) := congrArg (·, _) answered
  have holds := hold_apply lockable long anchored without bound free ends runs (size_counted long)
    (holders_counted bound)
  rw [counted_counted long (Nat.lt_of_succ_lt bound),
    counted_holders long (Nat.lt_of_succ_lt bound)] at holds
  exact holds

end Round

end LockProtocol

/-- The volume as the only party on its file. -/
def Volume.alone (volume : Volume) : LockProtocol.Parties Unit where
  geometry := volume.geometry
  device := fun _ => volume.device
  fits := fun _ => volume.fits
  apart := Function.injective_of_subsingleton _

end ImageFs
