import Mathlib.Data.Finset.Card
import Mathlib.Data.Fintype.Basic
import ImageFs.Proofs.LockSections

/-!
The directory lock among several parties on one file, whose sections are interleaved in any order: one
registers, asks for the lock, unlocks it, or is counted out. Main statement: in every state that can be
reached the locks on the file are those of the parties that hold the lock, nobody holds it beside one
that holds it exclusively, and the counter is the number of the parties that are registered.
-/

namespace ImageFs

namespace LockProtocol

variable {Party : Type}

/-! States and steps -/

/-- Where a party stands: it has not registered, it has registered and is about to ask for the lock,
it holds the lock, or it has given the lock up without being counted out yet. -/
inductive Phase where
  | idle
  | asking (kind : LockKind) (wait : Bool)
  | holding (kind : LockKind)
  | leaving
deriving DecidableEq, Repr

structure State (Party : Type) where
  backing : Backing
  phase : Party → Phase

/-- Nobody has registered yet on an image at rest. -/
structure Initial (parties : Parties Party) (state : State Party) : Prop where
  long : parties.geometry.imageLength ≤ state.backing.content.size
  lockable : parties.geometry.imageLength ≤ Limit.hostOffset
  locks : state.backing.locks = []
  holders : state.backing.content.holders parties.geometry = 0
  idle : ∀ party, state.phase party = .idle

/-- The phase after an attempt: the lock, or what there is without it. -/
def Phase.after (kind : LockKind) (granted : Bool) (otherwise : Phase) : Phase :=
  if granted then .holding kind else otherwise

/-! Who holds the lock -/

/-- The locks in the table are those of the parties that hold the lock. -/
def Shows (parties : Parties Party) (phase : Party → Phase) (table : LockTable) : Prop :=
  ∀ lock, lock ∈ table ↔ ∃ party kind, phase party = .holding kind ∧ lock = parties.held party kind

/-- Nobody holds the lock beside a party that holds it exclusively. -/
def Exclusive (phase : Party → Phase) : Prop :=
  ∀ first second kind, phase first = .holding .exclusive → phase second = .holding kind →
    first = second

/-- Whoever else holds the lock shares it, and so does the party that asks for it. -/
def Compatible (phase : Party → Phase) (party : Party) (kind : LockKind) : Prop :=
  ∀ other held, phase other = .holding held → other ≠ party → held = .shared ∧ kind = .shared

section Table

variable {parties : Parties Party} {phase : Party → Phase} {table : LockTable} {party : Party}
  {kind : LockKind}

theorem Shows.anchored (shows : Shows parties phase table) : Anchored parties table := by
  intro lock member
  obtain ⟨holder, kind, -, isLock⟩ := (shows lock).mp member
  exact ⟨holder, kind, isLock⟩

theorem Shows.owner_ne (shows : Shows parties phase table)
    (waits : ∀ kind, phase party ≠ .holding kind) :
    ∀ lock ∈ table, lock.owner ≠ (parties.device party).owner := by
  intro lock member same
  obtain ⟨holder, kind, holding, rfl⟩ := (shows lock).mp member
  obtain rfl : holder = party := parties.apart same
  exact waits kind holding

theorem Shows.without (shows : Shows parties phase table)
    (waits : ∀ kind, phase party ≠ .holding kind) : Without parties table party :=
  fun lock member own => absurd own (shows.owner_ne waits lock member)

/-- A request is granted when every other holder shares the lock and is to share it. -/
theorem Shows.conflicted_eq_false_iff (shows : Shows parties phase table) :
    conflicted parties table party kind = false ↔
      ∀ other held, phase other = .holding held → other ≠ party → held = .shared ∧ kind = .shared := by
  rw [conflicted, List.any_eq_false]
  constructor
  · intro free other held holding different
    have compatible := free _ ((shows _).mpr ⟨other, held, holding, rfl⟩)
    rw [conflicts_held held different] at compatible
    cases held <;> cases kind <;> simp_all
  · intro shared lock member
    obtain ⟨other, held, holding, rfl⟩ := (shows lock).mp member
    by_cases same : other = party
    · subst same
      simp [HeldLock.conflicts]
    · obtain ⟨rfl, rfl⟩ := shared other held holding same
      rw [conflicts_held .shared same]
      decide

end Table

/-! The invariant -/

section Counter

variable [Fintype Party] {parties : Parties Party} {state : State Party}

/-- How many parties have registered without having been counted out. -/
def registered (phase : Party → Phase) : Nat :=
  (Finset.univ.filter fun party => phase party ≠ .idle).card

structure Invariant (parties : Parties Party) (state : State Party) : Prop where
  long : parties.geometry.imageLength ≤ state.backing.content.size
  lockable : parties.geometry.imageLength ≤ Limit.hostOffset
  shows : Shows parties state.phase state.backing.locks
  exclusive : Exclusive state.phase
  counter : state.backing.content.holders parties.geometry = registered state.phase

theorem Initial.invariant (initial : Initial parties state) :
    Invariant parties state where
  long := initial.long
  lockable := initial.lockable
  shows lock := by
    rw [initial.locks]
    constructor
    · intro member
      cases member
    · rintro ⟨party, kind, holding, -⟩
      rw [initial.idle] at holding
      cases holding
  exclusive first second kind holding := by
    rw [initial.idle] at holding
    cases holding
  counter := by
    rw [initial.holders, registered, Finset.card_eq_zero.mpr]
    exact Finset.filter_eq_empty_iff.mpr fun party _ busy => busy (initial.idle party)

theorem Invariant.registered_lt (invariant : Invariant parties state) :
    registered state.phase < Limit.word64 := by
  rw [← invariant.counter]
  exact Disk.holders_lt state.backing.content

end Counter

/-! Steps -/

open Function (update)

variable [DecidableEq Party]

/-- One critical section of one party. -/
inductive Step (parties : Parties Party) : State Party → State Party → Prop where
  | register {state : State Party} {party : Party} {kind : LockKind} {attempt : Update Bool}
      {fast : Bool} {after : Backing} (wait : Bool) (idle : state.phase party = .idle)
      (asks : Asks parties party kind false attempt)
      (runs : (parties.lock party).registerWith attempt state.backing = (.ok fast, after)) :
      Step parties state ⟨after, update state.phase party (.after kind fast (.asking kind wait))⟩
  | registerFails {state : State Party} {party : Party} {kind : LockKind} {attempt : Update Bool}
      {halt : Halt} {after : Backing} (idle : state.phase party = .idle)
      (asks : Asks parties party kind false attempt)
      (runs : (parties.lock party).registerWith attempt state.backing = (.error halt, after)) :
      Step parties state ⟨after, state.phase⟩
  | ask {state : State Party} {party : Party} {kind : LockKind} {wait : Bool} {attempt : Update Bool}
      {granted : Bool} {after : Backing} (asking : state.phase party = .asking kind wait)
      (asks : Asks parties party kind wait attempt)
      (runs : attempt state.backing = (.ok granted, after)) :
      Step parties state ⟨after, update state.phase party (.after kind granted .leaving)⟩
  | unlock {state : State Party} {party : Party} {kind : LockKind} {after : Backing}
      (holding : state.phase party = .holding kind)
      (runs : (parties.lock party).device.unlock (parties.lock party).anchor state.backing =
        (.ok (), after)) :
      Step parties state ⟨after, update state.phase party .leaving⟩
  | decrement {state : State Party} {party : Party} {after : Backing}
      (leaving : state.phase party = .leaving)
      (runs : (parties.lock party).decrement state.backing = (.ok (), after)) :
      Step parties state ⟨after, update state.phase party .idle⟩

inductive Reachable (parties : Parties Party) : State Party → Prop where
  | initial {state : State Party} (initial : Initial parties state) : Reachable parties state
  | step {state after : State Party} (reachable : Reachable parties state)
      (step : Step parties state after) : Reachable parties after

/-! From phase to phase -/

section Moves

variable {parties : Parties Party} {phase : Party → Phase} {table : LockTable} {party : Party}
  {kind : LockKind}

theorem compatible_update_iff {next : Phase} :
    Compatible (update phase party next) party kind ↔ Compatible phase party kind := by
  refine forall₂_congr fun other held => ?_
  by_cases same : other = party
  · simp [same]
  · rw [Function.update_of_ne same]

theorem Shows.move (shows : Shows parties phase table) {next : Phase}
    (waits : ∀ kind, phase party ≠ .holding kind) (waits' : ∀ kind, next ≠ .holding kind) :
    Shows parties (update phase party next) table := by
  intro lock
  refine (shows lock).trans (exists_congr fun other => exists_congr fun kind => ?_)
  refine and_congr_left fun _ => ?_
  by_cases same : other = party
  · subst same
    simp [waits, waits']
  · rw [Function.update_of_ne same]

theorem Shows.grant (shows : Shows parties phase table)
    (waits : ∀ kind, phase party ≠ .holding kind) :
    Shows parties (update phase party (.holding kind)) (parties.held party kind :: table) := by
  intro lock
  rw [List.mem_cons, shows lock]
  constructor
  · rintro (rfl | ⟨other, held, holding, rfl⟩)
    · exact ⟨party, kind, Function.update_self .., rfl⟩
    · have different : other ≠ party := by
        rintro rfl
        exact waits held holding
      exact ⟨other, held, by rwa [Function.update_of_ne different], rfl⟩
  · rintro ⟨other, held, holding, rfl⟩
    by_cases same : other = party
    · subst same
      rw [Function.update_self] at holding
      cases holding
      exact .inl rfl
    · rw [Function.update_of_ne same] at holding
      exact .inr ⟨other, held, holding, rfl⟩

theorem Shows.unlock (shows : Shows parties phase table) (holding : phase party = .holding kind) :
    Shows parties (update phase party .leaving)
      (table.release (parties.device party).owner (parties.held party .shared).span) := by
  have gone : ∀ lock ∈ table, lock.owner = (parties.device party).owner →
      lock.outside (parties.held party .shared).span = [] := by
    intro lock member own
    obtain ⟨other, held, -, rfl⟩ := (shows lock).mp member
    obtain rfl : other = party := parties.apart own
    exact @HeldLock.outside_self (parties.held other held) held_proper
  have kept (lock : HeldLock) : lock ∈ table.release (parties.device party).owner
      (parties.held party .shared).span ↔
        lock ∈ table ∧ lock.owner ≠ (parties.device party).owner := by
    rw [LockTable.release, List.mem_flatMap]
    constructor
    · rintro ⟨other, member, part⟩
      by_cases own : other.owner = (parties.device party).owner
      · rw [if_pos own, gone other member own] at part
        cases part
      · rw [if_neg own] at part
        cases List.mem_singleton.mp part
        exact ⟨member, own⟩
    · rintro ⟨member, foreign⟩
      exact ⟨lock, member, by rw [if_neg foreign]; exact List.mem_singleton_self lock⟩
  intro lock
  rw [kept, shows lock]
  constructor
  · rintro ⟨⟨other, held, holding', rfl⟩, foreign⟩
    have different : other ≠ party := by
      rintro rfl
      exact foreign rfl
    exact ⟨other, held, by rwa [Function.update_of_ne different], rfl⟩
  · rintro ⟨other, held, holding', rfl⟩
    by_cases same : other = party
    · subst same
      rw [Function.update_self] at holding'
      cases holding'
    · rw [Function.update_of_ne same] at holding'
      exact ⟨⟨other, held, holding', rfl⟩, fun own => same (parties.apart own)⟩

theorem Exclusive.move {next : Phase} (exclusive : Exclusive phase)
    (waits' : ∀ kind, next ≠ .holding kind) : Exclusive (update phase party next) := by
  have kept {other : Party} {held : LockKind} (holding : update phase party next other = .holding held) :
      phase other = .holding held := by
    by_cases same : other = party
    · subst same
      rw [Function.update_self] at holding
      exact absurd holding (waits' held)
    · rwa [Function.update_of_ne same] at holding
  exact fun first second held holding holding' => exclusive first second held (kept holding)
    (kept holding')

theorem Exclusive.grant (exclusive : Exclusive phase)
    (free : ∀ other held, phase other = .holding held → other ≠ party →
      held = .shared ∧ kind = .shared) : Exclusive (update phase party (.holding kind)) := by
  intro first second held holding holding'
  by_cases isFirst : first = party <;> by_cases isSecond : second = party
  · rw [isFirst, isSecond]
  · subst isFirst
    rw [Function.update_self] at holding
    rw [Function.update_of_ne isSecond] at holding'
    cases holding
    cases (free second held holding' isSecond).2
  · subst isSecond
    rw [Function.update_of_ne isFirst] at holding
    cases (free first .exclusive holding isFirst).1
  · rw [Function.update_of_ne isFirst] at holding
    rw [Function.update_of_ne isSecond] at holding'
    exact exclusive first second held holding holding'

end Moves

/-! Counting -/

section Counting

variable [Fintype Party] {phase : Party → Phase} {party : Party} {next : Phase}

theorem registered_enter (idle : phase party = .idle) (busy : next ≠ .idle) :
    registered (update phase party next) = registered phase + 1 := by
  have inserted : (Finset.univ.filter fun other => update phase party next other ≠ .idle) =
      insert party (Finset.univ.filter fun other => phase other ≠ .idle) := by
    ext other
    by_cases same : other = party
    · subst same
      simp [busy]
    · simp [same]
  rw [registered, inserted, Finset.card_insert_of_notMem (by simp [idle]), registered]

theorem registered_stay (busy : phase party ≠ .idle) (busy' : next ≠ .idle) :
    registered (update phase party next) = registered phase := by
  refine congrArg Finset.card (Finset.filter_congr fun other _ => ?_)
  by_cases same : other = party
  · subst same
    simp [busy, busy']
  · rw [Function.update_of_ne same]

theorem registered_leave (busy : phase party ≠ .idle) :
    registered (update phase party .idle) + 1 = registered phase := by
  have same : update (update phase party .idle) party (phase party) = phase := by
    rw [Function.update_idem, Function.update_eq_self]
  have entered := registered_enter (Function.update_self party Phase.idle phase) busy
  rw [same] at entered
  exact entered.symm

end Counting

/-! What a step keeps -/

variable [Fintype Party] {parties : Parties Party} {state : State Party}

namespace Invariant

variable {party : Party} {kind : LockKind}

/-- What an attempt of a party that is registered leaves. -/
theorem after_attempt (invariant : Invariant parties state)
    (waits : ∀ kind, state.phase party ≠ .holding kind) {granted : Bool} {otherwise : Phase}
    (waits' : ∀ kind, otherwise ≠ .holding kind)
    (free : granted = true → conflicted parties state.backing.locks party kind = false) :
    Shows parties (update state.phase party (.after kind granted otherwise))
        (grant parties party kind granted ++ state.backing.locks) ∧
      Exclusive (update state.phase party (.after kind granted otherwise)) := by
  cases granted with
  | false => exact ⟨invariant.shows.move waits waits', invariant.exclusive.move waits'⟩
  | true =>
      exact ⟨invariant.shows.grant waits,
        invariant.exclusive.grant (invariant.shows.conflicted_eq_false_iff.mp (free rfl))⟩

theorem after_ne_idle {granted : Bool} {otherwise : Phase} (busy : otherwise ≠ .idle) :
    Phase.after kind granted otherwise ≠ .idle := by
  cases granted with
  | false => exact busy
  | true =>
      intro same
      cases same

theorem step {after : State Party} (invariant : Invariant parties state)
    (step : Step parties state after) : Invariant parties after := by
  obtain ⟨long, lockable, shows, exclusive, counter⟩ := id invariant
  cases step with
  | @register party kind attempt fast after wait idle asks runs =>
      have waits (held : LockKind) : state.phase party ≠ .holding held := idle.trans_ne (by simp)
      rcases registerWith_result lockable long shows.anchored (shows.without waits) asks with
        ⟨-, error, runs'⟩ | ⟨bound, fast', runs', free⟩
      · cases runs.symm.trans runs'
      · cases runs.symm.trans runs'
        obtain ⟨shows', exclusive'⟩ := @after_attempt Party _ _ parties state party kind invariant waits
          fast (.asking kind wait) (by simp) free
        refine ⟨(size_counted long).symm ▸ long, lockable, shows', exclusive', ?_⟩
        rw [holders_counted bound, counter]
        exact (registered_enter idle (after_ne_idle (by simp))).symm
  | @registerFails party kind attempt halt after idle asks runs =>
      have waits (held : LockKind) : state.phase party ≠ .holding held := idle.trans_ne (by simp)
      rcases registerWith_result lockable long shows.anchored (shows.without waits) asks with
        ⟨-, error, runs'⟩ | ⟨bound, fast', runs', free⟩
      · cases runs.symm.trans runs'
        exact invariant
      · cases runs.symm.trans runs'
  | @ask party kind wait attempt granted after asking asks runs =>
      have waits (held : LockKind) : state.phase party ≠ .holding held := asking.trans_ne (by simp)
      rcases @Asks.result Party parties party state.backing.content state.backing.locks kind wait
        attempt asks lockable (shows.without waits) with ⟨runs', -⟩ | ⟨granted', runs', free⟩
      · cases runs.symm.trans runs'
      · cases runs.symm.trans runs'
        obtain ⟨shows', exclusive'⟩ := @after_attempt Party _ _ parties state party kind invariant waits
          granted .leaving (by simp) free
        refine ⟨long, lockable, shows', exclusive', counter.trans ?_⟩
        have busy : state.phase party ≠ .idle := by
          rw [asking]
          simp
        exact (registered_stay busy (after_ne_idle (by simp))).symm
  | @unlock party kind after holding runs =>
      cases runs.symm.trans (@unlock_apply Party parties party state.backing.content
        state.backing.locks lockable)
      have busy : state.phase party ≠ .idle := by
        rw [holding]
        simp
      exact ⟨long, lockable, shows.unlock holding, exclusive.move (by simp),
        counter.trans (registered_stay busy (by simp)).symm⟩
  | @decrement party after leaving runs =>
      have waits (held : LockKind) : state.phase party ≠ .holding held := leaving.trans_ne (by simp)
      have busy : state.phase party ≠ .idle := by
        rw [leaving]
        simp
      have left := registered_leave busy
      have counts : state.backing.content.holders parties.geometry ≠ 0 := by omega
      have few := invariant.registered_lt
      cases runs.symm.trans (@decrement_apply Party parties party state.backing.content
        state.backing.locks lockable long shows.anchored counts)
      refine ⟨(size_counted long).symm ▸ long, lockable, shows.move waits (by simp),
        exclusive.move (by simp), ?_⟩
      refine (holders_counted (by omega)).trans ?_
      rw [counter]
      exact Nat.sub_eq_of_eq_add left.symm

end Invariant

theorem Reachable.invariant (reachable : Reachable parties state) :
    Invariant parties state := by
  induction reachable with
  | initial initial => exact initial.invariant
  | step _ step induction => exact induction.step step

end LockProtocol

end ImageFs