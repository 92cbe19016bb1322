import ImageFs.Proofs.Hold

/-!
The directory lock of several parties on one file, a critical section at a time. Main statements: with
only locks on the anchor in the table, registering and counting out change the counter by one and let
these locks stand, and a request is granted exactly when no other owner stands in its way.
-/

namespace ImageFs

/-! Locks beside each other -/

namespace LockTable

theorem release_cons (lock : HeldLock) (table : LockTable) (owner : Nat) (span : Span) :
    release (lock :: table) owner span =
      (if lock.owner = owner then lock.outside span else [lock]) ++ table.release owner span :=
  List.flatMap_cons

theorem release_append (front back : LockTable) (owner : Nat) (span : Span) :
    release (front ++ back) owner span = front.release owner span ++ back.release owner span :=
  List.flatMap_append

theorem release_of_apart {table : LockTable} {owner : Nat} {span : Span}
    (apart : ∀ lock ∈ table, lock.owner = owner →
      lock.span.stop ≤ span.first ∨ span.stop ≤ lock.span.first) :
    table.release owner span = table := by
  induction table with
  | nil => rfl
  | cons lock table induction =>
      rw [release_cons, induction fun other member => apart other (List.mem_cons_of_mem _ member)]
      split
      · next same =>
        rw [HeldLock.outside_of_apart (apart lock List.mem_cons_self same)]
        rfl
      · rfl

end LockTable

namespace LockProtocol

/-! Parties on one image -/

/-- Parties with one image, each through a device of its own. -/
structure Parties (Party : Type) where
  geometry : Geometry
  device : Party → Device
  fits : ∀ party, geometry.imageLength ≤ (device party).length
  apart : Function.Injective fun party => (device party).owner

variable {Party : Type}

namespace Parties

variable (parties : Parties Party) (party : Party)

def volume : Volume where
  device := parties.device party
  geometry := parties.geometry
  fits := parties.fits party

def lock : DirectoryLock :=
  (parties.volume party).directoryLock

/-- The lock on the anchor, as the party holds it. -/
def held (kind : LockKind) : HeldLock :=
  DirectoryLock.held (parties.volume party) (parties.lock party).anchor kind

/-- The lock on the counter, as the party holds it. -/
def counting : HeldLock :=
  DirectoryLock.held (parties.volume party) (parties.lock party).counter .exclusive

end Parties

@[simp] theorem owner_held (parties : Parties Party) (party : Party) (kind : LockKind) :
    (parties.held party kind).owner = (parties.device party).owner := rfl

@[simp] theorem kind_held (parties : Parties Party) (party : Party) (kind : LockKind) :
    (parties.held party kind).kind = kind := rfl

@[simp] theorem owner_counting (parties : Parties Party) (party : Party) :
    (parties.counting party).owner = (parties.device party).owner := rfl

/-! One section at a time -/

section Sections

variable {parties : Parties Party} {party : Party} {content content' : Content}
  {table front : LockTable} {kind : LockKind}

/-- Each lock in the table is one on the anchor. -/
def Anchored (parties : Parties Party) (table : LockTable) : Prop :=
  ∀ lock ∈ table, ∃ party kind, lock = parties.held party kind

theorem Anchored.before_counter (anchored : Anchored parties table) :
    ∀ lock ∈ table, lock.span.stop ≤ (parties.counting party).span.first := by
  intro lock member
  obtain ⟨holder, kind, rfl⟩ := anchored lock member
  exact @DirectoryLock.anchor_stop_le (parties.volume holder)

theorem counting_proper : (parties.counting party).span.first < (parties.counting party).span.stop :=
  Nat.lt_add_of_pos_right (Nat.succ_pos 7)

theorem held_proper : (parties.held party kind).span.first < (parties.held party kind).span.stop :=
  Nat.lt_add_of_pos_right (Nat.succ_pos 255)

theorem release_counting (anchored : Anchored parties table) (anchored' : Anchored parties front) :
    (front ++ parties.counting party :: table).release (parties.device party).owner
      (parties.counting party).span = front ++ table := by
  rw [LockTable.release_append,
    LockTable.release_of_apart fun lock member _ => .inl (anchored'.before_counter lock member),
    LockTable.release_cons, if_pos (owner_counting parties party),
    HeldLock.outside_self counting_proper,
    LockTable.release_of_apart fun lock member _ => .inl (anchored.before_counter lock member),
    List.nil_append]

/-- What runs with the counter locked leaves the other locks as they are. -/
theorem withCounter_apply {α : Type} {body : Update α} {answer : Except Halt α}
    (lockable : parties.geometry.imageLength ≤ Limit.hostOffset) (anchored : Anchored parties table)
    (anchored' : Anchored parties front) (ends : answer ≠ .error .blocked)
    (runs : body ⟨content, parties.counting party :: table⟩ =
      (answer, ⟨content', front ++ parties.counting party :: table⟩)) :
    (parties.lock party).withCounter .exclusive body ⟨content, table⟩ =
      (answer, ⟨content', front ++ table⟩) := by
  have isSpan : (parties.lock party).counter.span = .ok (parties.counting party).span :=
    DirectoryLock.counter_span lockable
  have granted : table.request (parties.device party).owner .exclusive
      (parties.counting party).span = some (parties.counting party :: table) := by
    have free : table.any (·.conflicts (parties.device party).owner .exclusive
        (parties.counting party).span) = false := by
      rw [List.any_eq_false]
      intro lock member
      have before : lock.span.stop ≤ (parties.counting party).span.first :=
        anchored.before_counter lock member
      simp [HeldLock.conflicts, HeldLock.overlaps, Nat.not_lt.mpr before]
    rw [LockTable.request, free,
      LockTable.release_of_apart fun lock member _ => .inl (anchored.before_counter lock member)]
    rfl
  have acquired : (parties.lock party).device.acquire (parties.lock party).counter .exclusive
      ⟨content, table⟩ = (.ok (), ⟨content, parties.counting party :: table⟩) :=
    Device.acquire_granted isSpan granted
  have unlocked : (parties.lock party).device.unlock (parties.lock party).counter
      ⟨content', front ++ parties.counting party :: table⟩ = (.ok (), ⟨content', front ++ table⟩) := by
    rw [Device.unlock_apply isSpan]
    exact congrArg (fun locks => (Except.ok (), Backing.mk content' locks))
      (release_counting anchored anchored')
  rw [DirectoryLock.withCounter, Device.withLock, Update.bind_ok acquired, Update.ensuring, runs]
  rcases answer with halt | value
  · cases halt with
    | blocked => exact absurd rfl ends
    | failed error => simp only [unlocked]
    | crashed cause => simp only [unlocked]
  · simp only [unlocked]

/-- The file with another count of holders. -/
def counted (parties : Parties Party) (content : Content) (count : Nat) : Content :=
  content.write (parties.geometry.anchorBlock * parties.geometry.blockSize) (.ofNat 8 count)

theorem holders_counted {count : Nat} (bound : count < Limit.word64) :
    (counted parties content count).holders parties.geometry = count :=
  Disk.holders_write content bound

theorem size_counted (long : parties.geometry.imageLength ≤ content.size) {count : Nat} :
    (counted parties content count).size = content.size := by
  refine content.size_write_of_fits ?_
  rw [Bytes.length_ofNat]
  exact Nat.le_trans (@DirectoryLock.counter_end_le ⟨⟨0, _⟩, parties.geometry, Nat.le_refl _⟩) long

theorem readHolders_apply (lockable : parties.geometry.imageLength ≤ Limit.hostOffset)
    (long : parties.geometry.imageLength ≤ content.size) :
    ((parties.lock party).readHolders : Update Nat) ⟨content, table⟩ =
      (.ok (content.holders parties.geometry), ⟨content, table⟩) := by
  -- reading does not look at the locks
  have reads := @DirectoryLock.readHolders_apply (parties.volume party) ⟨content, []⟩
    ⟨long, lockable, fun _ member => by cases member⟩
  exact congrArg (fun answer => (answer, Backing.mk content table)) reads

theorem writeHolders_apply (count : Nat) :
    (parties.lock party).writeHolders count ⟨content, table⟩ =
      (.ok (), ⟨counted parties content count, table⟩) :=
  @DirectoryLock.writeHolders_apply (parties.volume party) ⟨content, table⟩ count

theorem conflicts_held {other : Party} (held : LockKind) (different : other ≠ party) :
    (parties.held other held).conflicts (parties.device party).owner kind
      (parties.held party kind).span = (held = .exclusive || kind = .exclusive) := by
  have overlaps : (parties.held other held).overlaps (parties.held party kind).span = true := by
    have proper : (parties.held party kind).span.first < (parties.held party kind).span.stop :=
      held_proper
    rw [HeldLock.overlaps, Bool.and_eq_true, decide_eq_true_eq, decide_eq_true_eq]
    exact ⟨proper, proper⟩
  have apart : (parties.device other).owner ≠ (parties.device party).owner :=
    fun same => different (parties.apart same)
  rw [HeldLock.conflicts, overlaps, owner_held, kind_held, bne_iff_ne.mpr apart, Bool.true_and,
    Bool.true_and]

/-- Another party stands in the way of a request. -/
def conflicted (parties : Parties Party) (table : LockTable) (party : Party) (kind : LockKind) : Bool :=
  table.any (·.conflicts (parties.device party).owner kind (parties.held party kind).span)

theorem conflicted_counting :
    conflicted parties (parties.counting party :: table) party kind =
      conflicted parties table party kind := by
  have own : (parties.counting party).conflicts (parties.device party).owner kind
      (parties.held party kind).span = false := by
    rw [HeldLock.conflicts, owner_counting, bne_self_eq_false, Bool.false_and, Bool.false_and]
  rw [conflicted, List.any_cons, own, Bool.false_or, conflicted]

/-- The party has no lock on the anchor. -/
def Without (parties : Parties Party) (table : LockTable) (party : Party) : Prop :=
  ∀ lock ∈ table, lock.owner = (parties.device party).owner →
    (parties.held party .shared).span.stop ≤ lock.span.first

theorem request_apply (lockable : parties.geometry.imageLength ≤ Limit.hostOffset)
    (without : Without parties table party) (wait : Bool) :
    (parties.lock party).request kind wait ⟨content, table⟩ =
      if conflicted parties table party kind then
        (if wait then .error .blocked else .ok false, ⟨content, table⟩)
      else (.ok true, ⟨content, parties.held party kind :: table⟩) := by
  have isSpan : (parties.lock party).anchor.span = .ok (parties.held party kind).span :=
    DirectoryLock.anchor_span lockable
  have kept : table.release (parties.device party).owner (parties.held party kind).span = table :=
    LockTable.release_of_apart fun lock member own => .inr (without lock member own)
  cases conflict : conflicted parties table party kind with
  | false =>
      refine Device.lock_granted isSpan ?_ wait
      change table.request (parties.device party).owner kind (parties.held party kind).span = _
      rw [conflicted] at conflict
      rw [LockTable.request, conflict, kept]
      rfl
  | true =>
      have refused : table.request (parties.lock party).device.owner kind
          (parties.held party kind).span = none := if_pos conflict
      have spanned : (liftM (parties.lock party).anchor.span : Update Span) ⟨content, table⟩ =
          (.ok (parties.held party kind).span, ⟨content, table⟩) := by
        rw [isSpan]
        rfl
      refine (Update.bind_ok spanned).trans ?_
      rw [refused]
      cases wait <;> rfl

theorem unlock_apply (lockable : parties.geometry.imageLength ≤ Limit.hostOffset) :
    (parties.lock party).device.unlock (parties.lock party).anchor ⟨content, table⟩ =
      (.ok (), ⟨content, table.release (parties.device party).owner
        (parties.held party .shared).span⟩) :=
  Device.unlock_apply (DirectoryLock.anchor_span lockable)

section Counter

variable (lockable : parties.geometry.imageLength ≤ Limit.hostOffset)
  (long : parties.geometry.imageLength ≤ content.size) (anchored : Anchored parties table)

include lockable long anchored

/-- Registering counts one more, and only the first one asks for the lock at once. -/
theorem registerWith_apply {attempt : Update Bool} {fast : Bool}
    (bound : content.holders parties.geometry + 1 < Limit.word64)
    (anchored' : Anchored parties front)
    (first : content.holders parties.geometry = 0 →
      attempt ⟨counted parties content 1, parties.counting party :: table⟩ =
        (.ok fast, ⟨counted parties content 1, front ++ parties.counting party :: table⟩))
    (later : content.holders parties.geometry ≠ 0 → fast = false ∧ front = []) :
    (parties.lock party).registerWith attempt ⟨content, table⟩ =
      (.ok fast, ⟨counted parties content (content.holders parties.geometry + 1),
        front ++ table⟩) := by
  refine withCounter_apply lockable anchored anchored' (by simp) ?_
  refine (Update.bind_ok (readHolders_apply lockable long)).trans ?_
  rw [if_neg (Nat.not_le.mpr bound)]
  refine (Update.bind_ok (writeHolders_apply _)).trans ?_
  by_cases none : content.holders parties.geometry = 0
  · rw [if_pos none, none]
    exact Update.tryCatch_ok (first none)
  · obtain ⟨rfl, rfl⟩ := later none
    rw [if_neg none]
    rfl

theorem registerWith_overflow (attempt : Update Bool)
    (full : Limit.word64 ≤ content.holders parties.geometry + 1) :
    (parties.lock party).registerWith attempt ⟨content, table⟩ =
      (.error (.failed (.corrupt parties.geometry.anchorBlock .tooManyHolders)),
        ⟨content, table⟩) := by
  refine @withCounter_apply _ parties party content content table [] _ _ _ lockable anchored
    (fun _ member => by cases member) (by simp) ?_
  refine (Update.bind_ok (readHolders_apply lockable long)).trans ?_
  rw [if_pos full]
  rfl

theorem decrement_apply (counts : content.holders parties.geometry ≠ 0) :
    (parties.lock party).decrement ⟨content, table⟩ =
      (.ok (), ⟨counted parties content (content.holders parties.geometry - 1), table⟩) := by
  refine @withCounter_apply _ parties party content _ table [] _ _ _ lockable anchored
    (fun _ member => by cases member) (by simp) ?_
  refine (Update.bind_ok (readHolders_apply lockable long)).trans ?_
  rw [if_pos counts]
  exact writeHolders_apply _

end Counter

/-! What the sections do -/

/-- The party asks for the lock. A request that does not wait may be refused whatever the host knows. -/
def Asks (parties : Parties Party) (party : Party) (kind : LockKind) (wait : Bool)
    (attempt : Update Bool) : Prop :=
  attempt = (parties.lock party).request kind wait ∨ wait = false ∧ attempt = pure false

/-- The locks after an attempt. -/
def grant (parties : Parties Party) (party : Party) (kind : LockKind) (granted : Bool) : LockTable :=
  if granted then [parties.held party kind] else []

theorem anchored_grant (granted : Bool) : Anchored parties (grant parties party kind granted) := by
  intro lock member
  cases granted with
  | false => cases member
  | true => exact ⟨party, kind, List.mem_singleton.mp member⟩

theorem Asks.result {wait : Bool} {attempt : Update Bool}
    (asks : Asks parties party kind wait attempt)
    (lockable : parties.geometry.imageLength ≤ Limit.hostOffset)
    (without : Without parties table party) :
    (attempt ⟨content, table⟩ = (.error .blocked, ⟨content, table⟩) ∧ wait = true) ∨
      ∃ granted, attempt ⟨content, table⟩ =
          (.ok granted, ⟨content, grant parties party kind granted ++ table⟩) ∧
        (granted = true → conflicted parties table party kind = false) := by
  rcases asks with rfl | ⟨rfl, rfl⟩
  · rw [request_apply lockable without]
    cases conflict : conflicted parties table party kind with
    | false => exact .inr ⟨true, rfl, fun _ => rfl⟩
    | true =>
        cases wait with
        | false => exact .inr ⟨false, rfl, fun granted => by cases granted⟩
        | true => exact .inl ⟨rfl, rfl⟩
  · exact .inr ⟨false, rfl, fun granted => by cases granted⟩

theorem Without.counting (without : Without parties table party) :
    Without parties (parties.counting party :: table) party := by
  intro lock member own
  rcases List.mem_cons.mp member with rfl | member
  · exact @DirectoryLock.anchor_stop_le (parties.volume party)
  · exact without lock member own

section Counter

variable (lockable : parties.geometry.imageLength ≤ Limit.hostOffset)
  (long : parties.geometry.imageLength ≤ content.size) (anchored : Anchored parties table)
  (without : Without parties table party)

include lockable long anchored without

/-- Registering counts the party and tells whether it has the lock, which it has only if nobody stands
in its way; where the counter is at its end nothing changes. -/
theorem registerWith_result {attempt : Update Bool} (asks : Asks parties party kind false attempt) :
    (Limit.word64 ≤ content.holders parties.geometry + 1 ∧
      ∃ error, (parties.lock party).registerWith attempt ⟨content, table⟩ =
        (.error (.failed error), ⟨content, table⟩)) ∨
    (content.holders parties.geometry + 1 < Limit.word64 ∧
      ∃ fast, (parties.lock party).registerWith attempt ⟨content, table⟩ =
          (.ok fast, ⟨counted parties content (content.holders parties.geometry + 1),
            grant parties party kind fast ++ table⟩) ∧
        (fast = true → conflicted parties table party kind = false)) := by
  by_cases bound : content.holders parties.geometry + 1 < Limit.word64
  · refine .inr ⟨bound, ?_⟩
    by_cases none : content.holders parties.geometry = 0
    · rcases asks.result lockable without.counting with ⟨-, waits⟩ | ⟨fast, runs, free⟩
      · cases waits
      · rw [conflicted_counting] at free
        exact ⟨fast, registerWith_apply lockable long anchored bound (anchored_grant fast)
          (fun _ => runs) fun some => absurd none some, free⟩
    · exact ⟨false, registerWith_apply lockable long anchored bound (anchored_grant false)
        (fun none' => absurd none' none) fun _ => ⟨rfl, rfl⟩, fun fast => by cases fast⟩
  · exact .inl ⟨Nat.not_lt.mp bound, _,
      registerWith_overflow lockable long anchored attempt (Nat.not_lt.mp bound)⟩

theorem registerWith_request (bound : content.holders parties.geometry + 1 < Limit.word64) :
    (parties.lock party).registerWith ((parties.lock party).request kind false) ⟨content, table⟩ =
      (.ok (content.holders parties.geometry = 0 && !conflicted parties table party kind),
        ⟨counted parties content (content.holders parties.geometry + 1),
          grant parties party kind (content.holders parties.geometry = 0 &&
            !conflicted parties table party kind) ++ table⟩) := by
  refine registerWith_apply lockable long anchored bound (anchored_grant _) (fun none => ?_)
    fun some => ?_
  · rw [request_apply lockable without.counting, conflicted_counting, decide_eq_true none]
    cases conflicted parties table party kind <;> rfl
  · rw [decide_eq_false some]
    exact ⟨rfl, rfl⟩

end Counter

end Sections

end LockProtocol

end ImageFs
