import Mathlib.Algebra.Order.BigOperators.Group.Finset
import Mathlib.Logic.Relation
import ImageFs.Proofs.LockProtocol
import ImageFs.Proofs.Session

/-!
What the parties can rely on in every state of the lock protocol that can be reached: which sections
can run and what they answer, and what becomes of whole operations. Main statement: besides what the
invariant says, the first party to register never waits, nobody waits without another in its way, and
from every state the parties can go on until all of them are counted out.
-/

namespace ImageFs

namespace LockProtocol

open Function (update)
open Relation (ReflTransGen)

variable {Party : Type} [Fintype Party] {parties : Parties Party} {state : State Party}
  {party : Party} {kind : LockKind}

/-! Sections that can run -/

namespace Invariant

/-- The first to register has the lock at once. -/
theorem registers (invariant : Invariant parties state) (idle : state.phase party = .idle)
    (kind : LockKind) (bound : registered state.phase + 1 < Limit.word64) :
    ∃ fast after, (parties.lock party).registerWith ((parties.lock party).request kind false)
        state.backing = (.ok fast, after) ∧ (registered state.phase = 0 → fast = true) := by
  have waits (held : LockKind) : state.phase party ≠ .holding held := idle.trans_ne (by simp)
  rw [← invariant.counter] at bound ⊢
  refine ⟨_, _, registerWith_request invariant.lockable invariant.long invariant.shows.anchored
    (invariant.shows.without waits) bound, fun none => ?_⟩
  have nobody : Compatible state.phase party kind := by
    intro other held holding
    rw [invariant.counter, registered, Finset.card_eq_zero, Finset.filter_eq_empty_iff] at none
    exact absurd (holding.trans_ne (by simp)) (none (Finset.mem_univ other))
  rw [decide_eq_true none, invariant.shows.conflicted_eq_false_iff.mpr nobody]
  rfl

theorem registers_full (invariant : Invariant parties state) (attempt : Update Bool)
    (full : Limit.word64 ≤ registered state.phase + 1) :
    (parties.lock party).registerWith attempt state.backing =
      (.error (.failed (.corrupt parties.geometry.anchorBlock .tooManyHolders)), state.backing) := by
  rw [← invariant.counter] at full
  exact registerWith_overflow invariant.lockable invariant.long invariant.shows.anchored attempt full

theorem asks (invariant : Invariant parties state)
    (waits : ∀ kind, state.phase party ≠ .holding kind)
    (compatible : Compatible state.phase party kind) (wait : Bool) :
    (parties.lock party).request kind wait state.backing =
      (.ok true, { state.backing with locks := parties.held party kind :: state.backing.locks }) := by
  refine (request_apply invariant.lockable (invariant.shows.without waits) wait).trans ?_
  rw [invariant.shows.conflicted_eq_false_iff.mpr compatible]
  rfl

/-- A request that somebody stands in the way of is refused or waits. -/
theorem asks_conflicted (invariant : Invariant parties state)
    (waits : ∀ kind, state.phase party ≠ .holding kind)
    (conflict : ¬Compatible state.phase party kind) (wait : Bool) :
    (parties.lock party).request kind wait state.backing =
      (if wait then .error .blocked else .ok false, state.backing) := by
  have conflicted := (not_congr invariant.shows.conflicted_eq_false_iff).mpr conflict
  refine (request_apply invariant.lockable (invariant.shows.without waits) wait).trans ?_
  rw [if_pos (Bool.eq_true_of_not_eq_false conflicted)]

/-- Counting out never finds the counter at zero. -/
theorem decrements (invariant : Invariant parties state) (leaving : state.phase party = .leaving) :
    ∃ after, (parties.lock party).decrement state.backing = (.ok (), after) ∧
      after.content.holders parties.geometry + 1 =
        state.backing.content.holders parties.geometry := by
  have some : 0 < registered state.phase :=
    Finset.card_pos.mpr ⟨party, Finset.mem_filter.mpr
      ⟨Finset.mem_univ party, leaving.trans_ne (by simp)⟩⟩
  have bound := invariant.registered_lt
  rw [← invariant.counter] at some bound
  have fits : state.backing.content.holders parties.geometry - 1 < Limit.word64 :=
    Nat.lt_of_le_of_lt (Nat.sub_le _ 1) bound
  refine ⟨_, decrement_apply invariant.lockable invariant.long invariant.shows.anchored
    (Nat.ne_of_gt some), ?_⟩
  rw [holders_counted fits]
  exact Nat.sub_add_cancel some

/-- Once everybody is counted out the image is at rest. -/
theorem rests (invariant : Invariant parties state) (idle : ∀ party, state.phase party = .idle)
    (party : Party) : (parties.volume party).AtRest state.backing where
  long := invariant.long
  lockable := invariant.lockable
  locks := by
    refine List.eq_nil_iff_forall_not_mem.mpr fun lock member => ?_
    obtain ⟨holder, kind, holding, -⟩ := (invariant.shows lock).mp member
    cases (idle holder).symm.trans holding
  holders := by
    refine invariant.counter.trans (Finset.card_eq_zero.mpr ?_)
    exact Finset.filter_eq_empty_iff.mpr fun party _ busy => busy (idle party)

end Invariant

/-! Going on -/

/-- How many sections the party still has to run. -/
def Phase.remaining : Phase → Nat
  | .idle => 0
  | .leaving => 1
  | .holding _ => 2
  | .asking .. => 3

def remaining (phase : Party → Phase) : Nat :=
  ∑ party, (phase party).remaining

variable [DecidableEq Party]

theorem remaining_lt {phase : Party → Phase} {next : Phase}
    (less : next.remaining < (phase party).remaining) :
    remaining (update phase party next) < remaining phase := by
  refine Finset.sum_lt_sum (fun other _ => ?_) ⟨party, Finset.mem_univ party, ?_⟩
  · by_cases same : other = party
    · subst same
      rw [Function.update_self]
      exact Nat.le_of_lt less
    · rw [Function.update_of_ne same]
  · rwa [Function.update_self]

namespace Invariant

/-- As long as somebody is registered, one of those that are can run its next section. -/
theorem exists_step (invariant : Invariant parties state) (busy : state.phase party ≠ .idle) :
    ∃ after, Step parties state after ∧ remaining after.phase < remaining state.phase := by
  by_cases holds : ∃ holder kind, state.phase holder = .holding kind
  · obtain ⟨holder, kind, holding⟩ := holds
    refine ⟨_, .unlock holding (unlock_apply invariant.lockable), remaining_lt ?_⟩
    rw [holding]
    exact Nat.lt_succ_self 1
  · have nobody (holder : Party) (kind : LockKind) : state.phase holder ≠ .holding kind :=
      fun holding => holds ⟨holder, kind, holding⟩
    cases phase : state.phase party with
    | idle => exact absurd phase busy
    | asking kind wait =>
        have compatible : Compatible state.phase party kind :=
          fun other held holding => absurd holding (nobody other held)
        refine ⟨_, .ask phase (.inl rfl) (invariant.asks (nobody party) compatible wait),
          remaining_lt ?_⟩
        rw [phase]
        exact Nat.lt_succ_self 2
    | holding kind => exact absurd phase (nobody party kind)
    | leaving =>
        obtain ⟨after, runs, -⟩ := invariant.decrements phase
        refine ⟨_, .decrement phase runs, remaining_lt ?_⟩
        rw [phase]
        decide

theorem steps {after : State Party} (invariant : Invariant parties state)
    (steps : ReflTransGen (Step parties) state after) : Invariant parties after := by
  induction steps with
  | refl => exact invariant
  | tail _ step induction => exact induction.step step

/-- The parties are never stuck: they can go on until all of them are counted out. -/
theorem drains (invariant : Invariant parties state) :
    ∃ final, ReflTransGen (Step parties) state final ∧ ∀ party, final.phase party = .idle := by
  induction left : remaining state.phase using Nat.strongRecOn generalizing state with
  | ind _ induction =>
      by_cases done : ∀ party, state.phase party = .idle
      · exact ⟨state, .refl, done⟩
      · obtain ⟨party, busy⟩ := not_forall.mp done
        obtain ⟨after, step, less⟩ := invariant.exists_step busy
        obtain ⟨final, steps, idle⟩ := induction _ (left ▸ less) (invariant.step step) rfl
        exact ⟨final, .head step steps, idle⟩

end Invariant

/-! Whole operations -/

/-- A run of sections leads to the file `after` and the party into the phase `next`. -/
def Runs (parties : Parties Party) (state : State Party) (party : Party) (after : Backing)
    (next : Phase) : Prop :=
  ReflTransGen (Step parties) state ⟨after, update state.phase party next⟩

namespace Invariant

/-- Taking the lock, as a run of sections: it is taken, or waits for another holder, or the counter is
at its end and nothing happens. -/
theorem acquire_cases (invariant : Invariant parties state) (idle : state.phase party = .idle)
    (kind : LockKind) :
    (∃ after, (parties.lock party).acquire kind state.backing = (.ok (), after) ∧
      Runs parties state party after (.holding kind)) ∨
    (∃ after, (parties.lock party).acquire kind state.backing = (.error .blocked, after) ∧
      Runs parties state party after (.asking kind true) ∧ ¬Compatible state.phase party kind) ∨
    (∃ error, (parties.lock party).acquire kind state.backing =
        (.error (.failed error), state.backing) ∧ Limit.word64 ≤ registered state.phase + 1) := by
  by_cases bound : registered state.phase + 1 < Limit.word64
  · obtain ⟨fast, between, runs, -⟩ := invariant.registers idle kind bound
    have step : Step parties state _ := .register true idle (.inl rfl) runs
    cases fast with
    | true => exact .inl ⟨between, Update.bind_ok runs, .single step⟩
    | false =>
        let waiting : State Party := ⟨between, update state.phase party (.asking kind true)⟩
        have invariant' : Invariant parties waiting := invariant.step step
        have asking : waiting.phase party = .asking kind true := Function.update_self ..
        have waits (held : LockKind) : waiting.phase party ≠ .holding held :=
          asking.trans_ne (by simp)
        by_cases compatible : Compatible waiting.phase party kind
        · have taken := invariant'.asks waits compatible true
          refine .inl ⟨_, (Update.bind_ok runs).trans (Update.tryCatch_ok (Update.bind_ok taken)), ?_⟩
          have step' : Step parties waiting _ := .ask asking (.inl rfl) taken
          rw [Function.update_idem] at step'
          exact .tail (.single step) step'
        · have blocks := invariant'.asks_conflicted waits compatible true
          refine .inr (.inl ⟨between, (Update.bind_ok runs).trans ?_, .single step,
            compatible_update_iff.not.mp compatible⟩)
          exact Update.tryCatch_blocked (Update.bind_error blocks)
  · have full := Nat.not_lt.mp bound
    exact .inr (.inr ⟨_, Update.bind_error (invariant.registers_full _ full), full⟩)

/-- Trying to take the lock, as a run of sections: it is taken, or what the attempt has counted is
counted out again. -/
theorem tryAcquire_cases (invariant : Invariant parties state) (idle : state.phase party = .idle)
    (kind : LockKind) :
    (∃ granted after, (parties.lock party).tryAcquire kind state.backing = (.ok granted, after) ∧
      Runs parties state party after (.after kind granted .idle)) ∨
    (∃ error, (parties.lock party).tryAcquire kind state.backing =
        (.error (.failed error), state.backing) ∧ Limit.word64 ≤ registered state.phase + 1) := by
  by_cases bound : registered state.phase + 1 < Limit.word64
  · obtain ⟨fast, between, runs, -⟩ := invariant.registers idle kind bound
    have step : Step parties state _ := .register false idle (.inl rfl) runs
    cases fast with
    | true => exact .inl ⟨true, between, Update.bind_ok runs, .single step⟩
    | false =>
        let trying : State Party := ⟨between, update state.phase party (.asking kind false)⟩
        have invariant' : Invariant parties trying := invariant.step step
        have asking : trying.phase party = .asking kind false := Function.update_self ..
        have waits (held : LockKind) : trying.phase party ≠ .holding held :=
          asking.trans_ne (by simp)
        by_cases compatible : Compatible trying.phase party kind
        · have taken := invariant'.asks waits compatible false
          refine .inl ⟨true, _, (Update.bind_ok runs).trans (Update.bind_ok taken), ?_⟩
          have step' : Step parties trying _ := .ask asking (.inl rfl) taken
          rw [Function.update_idem] at step'
          exact .tail (.single step) step'
        · have refused := invariant'.asks_conflicted waits compatible false
          have step' : Step parties trying _ := .ask asking (.inl rfl) refused
          rw [Function.update_idem] at step'
          have leaving : (update state.phase party Phase.leaving) party = .leaving :=
            Function.update_self ..
          obtain ⟨after, counted, -⟩ := (invariant'.step step').decrements leaving
          have step'' : Step parties _ _ := .decrement leaving counted
          rw [Function.update_idem] at step''
          have unregistered : (parties.lock party).unregister between = (.ok (), after) :=
            Update.bind_ok (Update.attempt_ok counted)
          refine .inl ⟨false, after, ?_, .tail (.tail (.single step) step') step''⟩
          exact (Update.bind_ok runs).trans ((Update.bind_ok refused).trans
            (Update.bind_ok unregistered))
  · have full := Nat.not_lt.mp bound
    exact .inr ⟨_, Update.bind_error (invariant.registers_full _ full), full⟩

theorem release_steps (invariant : Invariant parties state)
    (holding : state.phase party = .holding kind) :
    ∃ after, (parties.lock party).release state.backing = (.ok (), after) ∧
      Runs parties state party after .idle := by
  have unlocked := @unlock_apply Party parties party state.backing.content state.backing.locks
    invariant.lockable
  have step : Step parties state _ := .unlock holding unlocked
  have leaving : (update state.phase party Phase.leaving) party = .leaving :=
    Function.update_self ..
  obtain ⟨after, counted, -⟩ := (invariant.step step).decrements leaving
  have step' : Step parties _ _ := .decrement leaving counted
  rw [Function.update_idem] at step'
  refine ⟨after, ?_, .tail (.single step) step'⟩
  exact (Update.bind_ok (Update.attempt_ok unlocked)).trans
    (Update.bind_ok (Update.attempt_ok counted))

/-- A refused attempt leaves the counter and the locks as they were. -/
theorem tryAcquire_refused (invariant : Invariant parties state)
    (idle : state.phase party = .idle) {after : Backing}
    (refused : (parties.lock party).tryAcquire kind state.backing = (.ok false, after)) :
    after.content.holders parties.geometry = state.backing.content.holders parties.geometry ∧
      Shows parties state.phase after.locks := by
  rcases invariant.tryAcquire_cases idle kind with ⟨granted, after', runs, steps⟩ | ⟨error, runs, -⟩
  · cases refused.symm.trans runs
    have same : update state.phase party .idle = state.phase :=
      Function.update_eq_self_iff.mpr idle.symm
    have invariant' := invariant.steps steps
    change Invariant parties ⟨after, update state.phase party .idle⟩ at invariant'
    rw [same] at invariant'
    exact ⟨invariant'.counter.trans invariant.counter.symm, invariant'.shows⟩
  · cases refused.symm.trans runs

end Invariant

/-! What the parties can rely on -/

structure Safe (parties : Parties Party) (state : State Party) : Prop where
  exclusive : Exclusive state.phase
  shows : Shows parties state.phase state.backing.locks
  counter : state.backing.content.holders parties.geometry = registered state.phase
  registers (party : Party) (kind : LockKind) : state.phase party = .idle →
    registered state.phase + 1 < Limit.word64 →
      ∃ fast after, (parties.lock party).registerWith ((parties.lock party).request kind false)
        state.backing = (.ok fast, after) ∧ (registered state.phase = 0 → fast = true)
  registers_full (party : Party) (attempt : Update Bool) :
    Limit.word64 ≤ registered state.phase + 1 →
      ∃ error, (parties.lock party).registerWith attempt state.backing =
        (.error (.failed error), state.backing)
  asks (party : Party) (kind : LockKind) (wait : Bool) : state.phase party = .asking kind wait →
    Compatible state.phase party kind →
      ∃ after, (parties.lock party).request kind wait state.backing = (.ok true, after)
  asks_conflicted (party : Party) (kind : LockKind) (wait : Bool) :
    state.phase party = .asking kind wait → ¬Compatible state.phase party kind →
      (parties.lock party).request kind wait state.backing =
        (if wait then .error .blocked else .ok false, state.backing)
  decrements (party : Party) : state.phase party = .leaving →
    ∃ after, (parties.lock party).decrement state.backing = (.ok (), after) ∧
      after.content.holders parties.geometry + 1 = state.backing.content.holders parties.geometry
  acquires (party : Party) (kind : LockKind) : state.phase party = .idle →
    (∃ after, (parties.lock party).acquire kind state.backing = (.ok (), after) ∧
      Runs parties state party after (.holding kind)) ∨
    (∃ after, (parties.lock party).acquire kind state.backing = (.error .blocked, after) ∧
      Runs parties state party after (.asking kind true) ∧ ¬Compatible state.phase party kind) ∨
    (∃ error, (parties.lock party).acquire kind state.backing =
        (.error (.failed error), state.backing) ∧ Limit.word64 ≤ registered state.phase + 1)
  tries (party : Party) (kind : LockKind) : state.phase party = .idle →
    (∃ granted after, (parties.lock party).tryAcquire kind state.backing = (.ok granted, after) ∧
      Runs parties state party after (.after kind granted .idle) ∧
      (granted = false → after.content.holders parties.geometry =
        state.backing.content.holders parties.geometry)) ∨
    (∃ error, (parties.lock party).tryAcquire kind state.backing =
        (.error (.failed error), state.backing) ∧ Limit.word64 ≤ registered state.phase + 1)
  releases (party : Party) (kind : LockKind) : state.phase party = .holding kind →
    ∃ after, (parties.lock party).release state.backing = (.ok (), after) ∧
      Runs parties state party after .idle
  drains : ∃ final, ReflTransGen (Step parties) state final ∧
    ∀ party, final.phase party = .idle ∧ (parties.volume party).AtRest final.backing

/-- However the sections of the parties are interleaved, the lock keeps its promises. -/
theorem reachable_safe (reachable : Reachable parties state) : Safe parties state := by
  have invariant := reachable.invariant
  exact {
    exclusive := invariant.exclusive
    shows := invariant.shows
    counter := invariant.counter
    registers := fun party kind idle bound => invariant.registers idle kind bound
    registers_full := fun party attempt full => ⟨_, invariant.registers_full attempt full⟩
    asks := fun party kind wait asking compatible =>
      ⟨_, invariant.asks (fun held => asking.trans_ne (by simp)) compatible wait⟩
    asks_conflicted := fun party kind wait asking conflict =>
      invariant.asks_conflicted (fun held => asking.trans_ne (by simp)) conflict wait
    decrements := fun party leaving => invariant.decrements leaving
    acquires := fun party kind idle => invariant.acquire_cases idle kind
    tries := by
      intro party kind idle
      refine (invariant.tryAcquire_cases idle kind).imp_left ?_
      rintro ⟨granted, after, runs, steps⟩
      refine ⟨granted, after, runs, steps, ?_⟩
      rintro rfl
      exact (invariant.tryAcquire_refused idle runs).1
    releases := fun party kind holding => invariant.release_steps holding
    drains := by
      obtain ⟨final, steps, idle⟩ := invariant.drains
      exact ⟨final, steps, fun party => ⟨idle party, (invariant.steps steps).rests idle party⟩⟩ }

/-- Two parties on one image. -/
def pair (geometry : Geometry) : Parties Bool where
  geometry
  device party := (geometry.volume party.toNat).device
  fits _ := Nat.le_refl _
  apart := show Function.Injective Bool.toNat by decide

/-- On a new image one of two parties takes the lock for itself and the other one waits. -/
theorem pair_safe :
    ∃ state, Reachable (pair Session.smallest) state ∧ state.phase false = .holding .exclusive ∧
      state.phase true = .asking .shared true ∧ Safe (pair Session.smallest) state := by
  obtain ⟨reachable, -⟩ := @Session.new_reachable Session.smallest (by decide)
  have rest := reachable.inOrder.rest
  have initial : Initial (pair Session.smallest)
      ⟨(Session.new Session.smallest).backing, fun _ => .idle⟩ :=
    ⟨rest.long, rest.lockable, rest.locks, rest.holders, fun _ => rfl⟩
  have none : registered (fun _ : Bool => Phase.idle) = 0 := by decide
  obtain ⟨fast, between, runs, first⟩ :=
    @Invariant.registers _ _ _ _ false initial.invariant rfl .exclusive (by rw [none]; decide)
  obtain rfl := first none
  have reachable' := (Reachable.initial initial).step (.register true rfl (.inl rfl) runs)
  have one : registered (update (fun _ : Bool => Phase.idle) false (.holding .exclusive)) = 1 := by
    decide
  obtain ⟨fast, after, runs', -⟩ :=
    @Invariant.registers _ _ _ _ true reachable'.invariant rfl .shared (by
      change registered (update (fun _ : Bool => Phase.idle) false (.holding .exclusive)) + 1 < _
      rw [one]
      decide)
  have reachable'' := reachable'.step (.register true rfl (.inl rfl) runs')
  refine ⟨_, reachable'', rfl, ?_, reachable_safe reachable''⟩
  cases fast with
  | false => rfl
  | true =>
      have alone := reachable''.invariant.exclusive false true .shared rfl rfl
      cases alone

end LockProtocol

end ImageFs
