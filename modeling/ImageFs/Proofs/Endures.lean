import ImageFs.Proofs.Hold
import ImageFs.Proofs.Verdict

/-!
Computations on a file with arbitrary bytes on which nobody else holds a lock. What endures ends with
a value or an error, never waits, and breaks down only for causes that are excused; what holds of the
content before decides what holds of it after. Main statement: what endures does so under the directory
lock too, whatever the counter of holders says.
-/

namespace ImageFs

variable {α β : Type}

def Halt.Excused (excused : Crash → Prop) : Halt → Prop
  | .failed _ => True
  | .crashed cause => excused cause
  | .blocked => False

/-! Queries -/

/-- On a file with `before`, the query ends with a value as `yields` says, or is stopped by what is
excused. -/
def Bears (volume : Volume) (excused : Crash → Prop) (before : Content → Prop) (query : Query α)
    (yields : α → Content → Prop) : Prop :=
  ∀ backing, volume.Ready backing → before backing.content →
    (∀ value, query backing = .ok value → yields value backing.content) ∧
    ∀ halt, query backing = .error halt → halt.Excused excused

namespace Bears

variable {volume : Volume} {excused : Crash → Prop} {before : Content → Prop}

theorem pure {value : α} {yields : α → Content → Prop}
    (holds : ∀ content, before content → yields value content) :
    Bears volume excused before (Pure.pure value) yields := by
  intro backing ready known
  refine ⟨fun value ends => ?_, fun halt ends => ?_⟩
  · cases ends
    exact holds backing.content known
  · cases ends

theorem throw (error : FsError) (yields : α → Content → Prop) :
    Bears volume excused before (MonadExcept.throw error : Query α) yields := by
  intro backing ready known
  refine ⟨fun value ends => ?_, fun halt ends => ?_⟩
  · cases ends
  · cases ends
    trivial

theorem crash {cause : Crash} (excuse : excused cause) (yields : α → Content → Prop) :
    Bears volume excused before (Query.halt (.crashed cause)) yields := by
  intro backing ready known
  refine ⟨fun value ends => ?_, fun halt ends => ?_⟩
  · cases ends
  · cases ends
    exact excuse

theorem except {computed : Except FsError α} {yields : α → Content → Prop}
    (holds : ∀ value content, computed = .ok value → before content → yields value content) :
    Bears volume excused before (liftM computed : Query α) yields := by
  cases computed with
  | ok value => exact pure fun content => holds value content rfl
  | error error => exact throw error yields

theorem bind {query : Query α} {next : α → Query β} {between : α → Content → Prop}
    {yields : β → Content → Prop} (first : Bears volume excused before query between)
    (second : ∀ value, Bears volume excused (fun content => before content ∧ between value content)
      (next value) yields) :
    Bears volume excused before (query >>= next) yields := by
  intro backing ready known
  obtain ⟨values, halts⟩ := first backing ready known
  cases ends : query backing with
  | ok value =>
      rw [Query.bind_ok ends]
      exact second value backing ready ⟨known, values value ends⟩
  | error halt =>
      rw [Query.bind_error ends]
      refine ⟨fun value ends' => ?_, fun halt' ends' => ?_⟩
      · cases ends'
      · cases ends'
        exact halts halt ends

theorem weaken {query : Query α} {before' : Content → Prop} {yields yields' : α → Content → Prop}
    (bears : Bears volume excused before query yields)
    (stronger : ∀ content, before' content → before content)
    (weaker : ∀ value content, before' content → yields value content → yields' value content) :
    Bears volume excused before' query yields' := by
  intro backing ready known
  obtain ⟨values, halts⟩ := bears backing ready (stronger _ known)
  exact ⟨fun value ends => weaker value _ known (values value ends), halts⟩

theorem ite {condition : Prop} [Decidable condition] {yes no : Query α}
    {yields : α → Content → Prop} (holds : condition → Bears volume excused before yes yields)
    (fails : ¬ condition → Bears volume excused before no yields) :
    Bears volume excused before (if condition then yes else no) yields := by
  split
  · next condition => exact holds condition
  · next condition => exact fails condition

theorem guard {condition : Prop} [Decidable condition] {error : FsError} {next : Unit → Query α}
    {yields : α → Content → Prop}
    (passes : ¬ condition → Bears volume excused before (next ()) yields) :
    Bears volume excused before
      (if condition then (MonadExcept.throw error : Query Unit) >>= next else next ()) yields :=
  .ite (fun _ => (throw error fun _ _ => False).bind fun _ _ _ never => never.2.elim) passes

/-- What is known of the content before may be put to use. -/
theorem given {query : Query α} {yields : α → Content → Prop} {fact : Prop}
    (known : ∀ content, before content → fact)
    (bears : fact → Bears volume excused before query yields) :
    Bears volume excused before query yields :=
  fun backing ready holds => bears (known _ holds) backing ready holds

/-- What is known of the first value may be put to use. -/
theorem knowing {query : Query α} {next : α → Query β} {fact : α → Prop}
    {yields : β → Content → Prop}
    (first : Bears volume excused before query fun value _ => fact value)
    (second : ∀ value, fact value → Bears volume excused before (next value) yields) :
    Bears volume excused before (query >>= next) yields :=
  first.bind fun value => .given (fun _ known => known.2) fun fact =>
    (second value fact).weaken (fun _ known => known.1) fun _ _ _ => id

theorem andThen {query : Query α} {next : α → Query β} {yields : β → Content → Prop}
    (first : Bears volume excused before query fun _ _ => True)
    (second : ∀ value, Bears volume excused before (next value) yields) :
    Bears volume excused before (query >>= next) yields :=
  first.knowing fun value _ => second value

theorem plain {query : Query α} {yields : α → Content → Prop}
    (bears : Bears volume excused before query yields) :
    Bears volume excused before query fun _ _ => True :=
  bears.weaken (fun _ => id) fun _ _ _ _ => trivial

/-- The query ends with what it finds in the bytes. -/
theorem of_judges {query : Query α} {verdict : Content → Option α}
    (bears : Bears volume excused before query fun _ _ => True)
    (judges : ∀ backing, Judges query backing (verdict backing.content)) :
    Bears volume excused before query fun value content => verdict content = some value := by
  intro backing ready known
  exact ⟨fun value ends => (judges backing).value ends, (bears backing ready known).2⟩

theorem mapM {items : List α} {query : α → Query β}
    (each : ∀ item ∈ items, Bears volume excused before (query item) fun _ _ => True) :
    Bears volume excused before (items.mapM query) fun _ _ => True := by
  induction items with
  | nil => exact pure fun _ _ => trivial
  | cons item rest induction =>
      rw [List.mapM_cons]
      have others := induction fun other member => each other (.tail _ member)
      refine (each item List.mem_cons_self).andThen fun value => ?_
      exact others.andThen fun _ => pure fun _ _ => trivial

theorem damageOr {query : Query α} {yields : α → Content → Prop}
    (bears : Bears volume excused before query yields) :
    Bears volume excused before query.damageOr fun outcome content =>
      ∀ value, outcome = .ok value → yields value content := by
  intro backing ready known
  obtain ⟨values, halts⟩ := bears backing ready known
  refine ⟨fun outcome ends value isOk => ?_, fun halt ends => ?_⟩
  · subst isOk
    exact values value (Query.of_damageOr_ok ends)
  · simp only [Query.damageOr, tryCatchThe, MonadExceptOf.tryCatch, ← bind_pure_comp,
      Query.bind_apply] at ends
    cases found : query backing with
    | ok value =>
        rw [found] at ends
        cases ends
    | error halt' =>
        rw [found] at ends
        have excuse := halts halt' found
        cases halt' with
        | failed error =>
            cases error <;> cases ends <;> trivial
        | crashed cause =>
            cases ends
            exact excuse
        | blocked => exact excuse.elim

end Bears

/-! Updates -/

/-- What there is when an update has ended. -/
structure Endured (volume : Volume) (excused : Crash → Prop) (after : α → Content → Prop)
    (otherwise : Content → Prop) (outcome : Except Halt α × Backing) : Prop where
  ready : volume.Ready outcome.2
  value : ∀ value, outcome.1 = .ok value → after value outcome.2.content
  halt : ∀ halt, outcome.1 = .error halt → halt.Excused excused ∧ otherwise outcome.2.content

namespace Endured

variable {volume : Volume} {excused : Crash → Prop} {after : α → Content → Prop}
  {otherwise : Content → Prop} {final : Backing}

theorem ok {value : α} (ready : volume.Ready final) (holds : after value final.content) :
    Endured volume excused after otherwise (.ok value, final) where
  ready
  value _ same := Except.ok.inj same ▸ holds
  halt _ same := by cases same

theorem error {halt : Halt} (ready : volume.Ready final) (excuse : halt.Excused excused)
    (holds : otherwise final.content) :
    Endured volume excused after otherwise (.error halt, final) where
  ready
  value _ same := by cases same
  halt _ same := Except.error.inj same ▸ ⟨excuse, holds⟩

/-- What is left in either case is what there is. -/
theorem kept {keeps : Content → Prop} {outcome : Except Halt α × Backing}
    (endured : Endured volume excused (fun _ => keeps) keeps outcome) : keeps outcome.2.content := by
  cases ends : outcome.1 with
  | ok value => exact endured.value value ends
  | error halt => exact (endured.halt halt ends).2

end Endured

/-- From a file with `before`, the update ends with a value and `after`, or it is stopped by what is
excused and leaves `otherwise`. -/
def Endures (volume : Volume) (excused : Crash → Prop) (before : Content → Prop) (update : Update α)
    (after : α → Content → Prop) (otherwise : Content → Prop) : Prop :=
  ∀ backing, volume.Ready backing → before backing.content →
    Endured volume excused after otherwise (update backing)

namespace Endures

variable {volume : Volume} {excused : Crash → Prop} {before otherwise : Content → Prop}

theorem pure {value : α} {after : α → Content → Prop}
    (holds : ∀ content, before content → after value content) :
    Endures volume excused before (Pure.pure value) after otherwise :=
  fun _ ready known => .ok ready (holds _ known)

theorem throw (error : FsError) (after : α → Content → Prop)
    (keeps : ∀ content, before content → otherwise content) :
    Endures volume excused before (MonadExcept.throw error : Update α) after otherwise :=
  fun _ ready known => .error ready trivial (keeps _ known)

theorem crash {cause : Crash} (excuse : excused cause) (after : α → Content → Prop)
    (keeps : ∀ content, before content → otherwise content) :
    Endures volume excused before (Update.halt (.crashed cause)) after otherwise :=
  fun _ ready known => .error ready excuse (keeps _ known)

theorem query {query : Query α} {yields : α → Content → Prop}
    (bears : Bears volume excused before query yields)
    (keeps : ∀ content, before content → otherwise content) :
    Endures volume excused before (liftM query : Update α)
      (fun value content => before content ∧ yields value content) otherwise := by
  intro backing ready known
  obtain ⟨values, halts⟩ := bears backing ready known
  exact ⟨ready, fun value ends => ⟨known, values value ends⟩,
    fun halt ends => ⟨halts halt ends, keeps _ known⟩⟩

theorem bind {update : Update α} {next : α → Update β} {between : α → Content → Prop}
    {after : β → Content → Prop} (first : Endures volume excused before update between otherwise)
    (second : ∀ value, Endures volume excused (between value) (next value) after otherwise) :
    Endures volume excused before (update >>= next) after otherwise := by
  intro backing ready known
  have endured := first backing ready known
  cases ends : update backing with
  | mk answer final =>
      rw [ends] at endured
      cases answer with
      | ok value =>
          rw [Update.bind_ok ends]
          exact second value final endured.ready (endured.value value rfl)
      | error halt =>
          obtain ⟨excuse, left⟩ := endured.halt halt rfl
          rw [Update.bind_error ends]
          exact .error endured.ready excuse left

/-- What there is between two updates may be given. -/
theorem through {update : Update α} {next : α → Update β} {after : β → Content → Prop}
    (between : Content → Prop)
    (first : Endures volume excused before update (fun _ => between) otherwise)
    (second : ∀ value, Endures volume excused between (next value) after otherwise) :
    Endures volume excused before (update >>= next) after otherwise :=
  first.bind second

theorem weaken {update : Update α} {before' otherwise' : Content → Prop}
    {after after' : α → Content → Prop}
    (endures : Endures volume excused before update after otherwise)
    (stronger : ∀ content, before' content → before content)
    (weaker : ∀ value content, after value content → after' value content)
    (weaker' : ∀ content, otherwise content → otherwise' content) :
    Endures volume excused before' update after' otherwise' := by
  intro backing ready known
  have endured := endures backing ready (stronger _ known)
  exact ⟨endured.ready, fun value ends => weaker _ _ (endured.value value ends),
    fun halt ends => (endured.halt halt ends).imp_right (weaker' _)⟩

theorem both {update : Update α} {before' otherwise' : Content → Prop}
    {after after' : α → Content → Prop}
    (first : Endures volume excused before update after otherwise)
    (second : Endures volume excused before' update after' otherwise') :
    Endures volume excused (fun content => before content ∧ before' content) update
      (fun value content => after value content ∧ after' value content)
      fun content => otherwise content ∧ otherwise' content := by
  intro backing ready known
  have endured := first backing ready known.1
  have endured' := second backing ready known.2
  refine ⟨endured.ready, fun value ends => ?_, fun halt ends => ?_⟩
  · exact ⟨endured.value value ends, endured'.value value ends⟩
  · obtain ⟨excuse, left⟩ := endured.halt halt ends
    exact ⟨excuse, left, (endured'.halt halt ends).2⟩

theorem forget {update : Update α} {before' : Content → Prop} {after : α → Content → Prop}
    (stronger : ∀ content, before content → before' content)
    (endures : Endures volume excused before' update after otherwise) :
    Endures volume excused before update after otherwise :=
  endures.weaken stronger (fun _ _ => id) fun _ => id

theorem given {update : Update α} {after : α → Content → Prop} {fact : Prop}
    (known : ∀ content, before content → fact)
    (endures : fact → Endures volume excused before update after otherwise) :
    Endures volume excused before update after otherwise :=
  fun backing ready holds => endures (known _ holds) backing ready holds

theorem ask {query : Query α} {yields : α → Content → Prop}
    (bears : Bears volume excused before query yields)
    (keeps : ∀ content, before content → otherwise content) :
    Endures volume excused before (liftM query : Update α) (fun _ => before) otherwise :=
  (Endures.query bears keeps).weaken (fun _ => id) (fun _ _ known => known.1) fun _ => id

/-- What is known of the answer of a query may be put to use. -/
theorem asking {query : Query α} {next : α → Update β} {fact : α → Prop}
    {after : β → Content → Prop}
    (bears : Bears volume excused before query fun value _ => fact value)
    (keeps : ∀ content, before content → otherwise content)
    (second : ∀ value, fact value → Endures volume excused before (next value) after otherwise) :
    Endures volume excused before ((liftM query : Update α) >>= next) after otherwise :=
  (Endures.query bears keeps).bind fun value => .given (fun _ known => known.2) fun fact =>
    (second value fact).forget fun _ known => known.1

theorem ite {condition : Prop} [Decidable condition] {yes no : Update α}
    {after : α → Content → Prop}
    (holds : condition → Endures volume excused before yes after otherwise)
    (fails : ¬ condition → Endures volume excused before no after otherwise) :
    Endures volume excused before (if condition then yes else no) after otherwise := by
  split
  · next condition => exact holds condition
  · next condition => exact fails condition

theorem except {computed : Except FsError α} {after : α → Content → Prop}
    (holds : ∀ value content, computed = .ok value → before content → after value content)
    (keeps : ∀ content, before content → otherwise content) :
    Endures volume excused before (liftM computed : Update α) after otherwise := by
  cases computed with
  | ok value => exact pure fun content => holds value content rfl
  | error error => exact throw error after keeps

theorem liftOk {computed : Except FsError α} {value : α} {next : α → Update β}
    {after : β → Content → Prop} (equal : computed = .ok value)
    (second : Endures volume excused before (next value) after otherwise) :
    Endures volume excused before ((liftM computed : Update α) >>= next) after otherwise := by
  subst equal
  exact second

/-- An update goes on unless the condition stops it. -/
theorem guard {condition : Prop} [Decidable condition] {error : FsError} {next : Unit → Update α}
    {after : α → Content → Prop} (keeps : ∀ content, before content → otherwise content)
    (passes : ¬ condition → Endures volume excused before (next ()) after otherwise) :
    Endures volume excused before
      (if condition then (MonadExcept.throw error : Update Unit) >>= next else next ()) after
      otherwise :=
  .ite (fun _ => (throw error (fun _ _ => False) keeps).bind fun _ _ _ never => never.elim) passes

/-- What is done only under a condition does not matter when it keeps what holds before. -/
theorem optional {condition : Prop} [Decidable condition] {update : Update β} {next : Update α}
    {after : α → Content → Prop}
    (first : Endures volume excused before update (fun _ => before) otherwise)
    (second : Endures volume excused before next after otherwise) :
    Endures volume excused before (if condition then update >>= fun _ => next else next) after
      otherwise :=
  .ite (fun _ => first.bind fun _ => second) fun _ => second

theorem tryCatch {update : Update α} {handler : FsError → Update α} {after : α → Content → Prop}
    (first : Endures volume excused before update after otherwise)
    (second : ∀ error, Endures volume excused otherwise (handler error) after otherwise) :
    Endures volume excused before (MonadExcept.tryCatch update handler) after otherwise := by
  intro backing ready known
  have endured := first backing ready known
  cases ends : update backing with
  | mk answer final =>
      rw [ends] at endured
      cases answer with
      | ok value =>
          rw [Update.tryCatch_ok ends]
          exact endured
      | error halt =>
          obtain ⟨excuse, left⟩ := endured.halt halt rfl
          cases halt with
          | failed error =>
              rw [Update.tryCatch_error ends]
              exact second error final endured.ready left
          | crashed cause =>
              have passed : (MonadExcept.tryCatch update handler : Update α) backing =
                  (.error (.crashed cause), final) := by
                dsimp only [MonadExcept.tryCatch, tryCatchThe, MonadExceptOf.tryCatch]
                rw [ends]
              rw [passed]
              exact endured
          | blocked => exact excuse.elim

theorem attempt {update : Update α} {after : α → Content → Prop}
    (endures : Endures volume excused before update after otherwise)
    {after' : Except FsError α → Content → Prop}
    (value : ∀ value content, after value content → after' (.ok value) content)
    (error : ∀ error content, otherwise content → after' (.error error) content) :
    Endures volume excused before update.attempt after' otherwise := by
  intro backing ready known
  have endured := endures backing ready known
  rw [Update.attempt]
  cases ends : update backing with
  | mk answer final =>
      rw [ends] at endured
      cases answer with
      | ok result => exact .ok endured.ready (value _ _ (endured.value _ rfl))
      | error halt =>
          obtain ⟨excuse, left⟩ := endured.halt halt rfl
          cases halt with
          | failed cause => exact .ok endured.ready (error _ _ left)
          | crashed cause => exact .error endured.ready excuse left
          | blocked => exact excuse.elim

theorem cleanup {cleanup : Update Unit} {keeps : Content → Prop} {backing : Backing}
    (endures : Endures volume excused keeps cleanup (fun _ => keeps) keeps)
    (ready : volume.Ready backing) (known : keeps backing.content) :
    volume.Ready (cleanup backing).2 ∧ (cleanup backing).1 ≠ .error .blocked ∧
      keeps (cleanup backing).2.content := by
  have endured := endures backing ready known
  cases ends : (cleanup backing).1 with
  | ok value => exact ⟨endured.ready, by simp, endured.value value ends⟩
  | error halt =>
      obtain ⟨excuse, kept⟩ := endured.halt halt ends
      refine ⟨endured.ready, ?_, kept⟩
      rintro ⟨⟩
      exact excuse

/-- A cleanup does not show, as far as it leaves what holds of the content. -/
theorem ensuring {update : Update α} {cleanup : Update Unit} {after : α → Content → Prop}
    (endures : Endures volume excused before update after otherwise)
    (cleans : ∀ value, Endures volume excused (after value) cleanup (fun _ => after value)
      (after value))
    (cleans' : Endures volume excused otherwise cleanup (fun _ => otherwise) otherwise) :
    Endures volume excused before (update.ensuring cleanup) after otherwise := by
  intro backing ready known
  have endured := endures backing ready known
  cases ends : update backing with
  | mk answer between =>
      rw [ends] at endured
      cases answer with
      | ok value =>
          obtain ⟨ready', waits, kept⟩ := (cleans value).cleanup endured.ready
            (endured.value value rfl)
          rw [Update.ensuring_apply ends (by simp) waits]
          exact .ok ready' kept
      | error halt =>
          obtain ⟨excuse, left⟩ := endured.halt halt rfl
          obtain ⟨ready', waits, kept⟩ := cleans'.cleanup endured.ready left
          have runs : (Except.error halt : Except Halt α) ≠ .error .blocked := by
            rintro ⟨⟩
            exact excuse
          rw [Update.ensuring_apply ends runs waits]
          exact .error ready' excuse kept

end Endures

/-! Bytes and locks -/

theorem ByteRange.first_lt_stop {range : ByteRange} {span : Span} (isSpan : range.span = .ok span) :
    span.first < span.stop := by
  rw [ByteRange.span] at isSpan
  split at isSpan
  · cases isSpan
  · next start =>
    split at isSpan
    · cases isSpan
    · split at isSpan
      · cases isSpan
        exact Nat.not_le.mp start
      · next proper =>
        split at isSpan
        · cases isSpan
        · cases isSpan
          exact Nat.lt_add_of_pos_right (Nat.pos_of_ne_zero proper)

namespace Device

variable {volume : Volume} {excused : Crash → Prop}

theorem read_bears (before : Content → Prop) (offset count : Nat) :
    Bears volume excused before (volume.device.read offset count)
      fun bytes content => content.read offset count = bytes := by
  intro backing ready known
  refine ⟨fun bytes ends => ?_, fun halt ends => ?_⟩
  · exact Option.some.inj ((volume.device.read_judges offset count backing).value ends)
  · rw [read, checkBounds] at ends
    split at ends
    · cases ends
      trivial
    · split at ends
      · cases ends
        trivial
      · change (if 0 < count ∧ backing.content.size < offset + count then _ else _) = _ at ends
        split at ends <;> cases ends
        trivial

theorem readWord_bears (before : Content → Prop) (offset : Nat) :
    Bears volume excused before (volume.device.readWord offset)
      fun value content => (content.read offset 8).toNat = value :=
  (read_bears before offset 8).bind fun _ => .pure fun _ known => congrArg Bytes.toNat known.2

theorem write_endures {before otherwise : Content → Prop} {after : Unit → Content → Prop}
    {offset : Nat} {bytes : Bytes} (inside : offset + bytes.length ≤ volume.geometry.imageLength)
    (holds : ∀ content, before content → after () (content.write offset bytes)) :
    Endures volume excused before (volume.device.write offset bytes) after otherwise := by
  intro backing ready known
  have long := ready.long
  rw [volume.write_apply backing inside]
  refine .ok ⟨?_, ready.lockable, ready.own⟩ (holds _ known)
  rw [Content.size_write_of_fits _ (by omega)]
  exact long

variable {keeps : Content → Prop} (range : ByteRange) (kind : LockKind)

theorem lock_endures (wait : Bool) :
    Endures volume excused keeps (volume.device.lock range kind wait) (fun _ => keeps) keeps := by
  intro backing ready known
  cases isSpan : range.span with
  | error error =>
      rw [lock, isSpan]
      exact .error ready trivial known
  | ok span =>
      obtain ⟨locks, granted, own, -⟩ := volume.device.lock_of_own kind wait isSpan
        (ByteRange.first_lt_stop isSpan) ready.own
      rw [granted]
      exact .ok ⟨ready.long, ready.lockable, own⟩ known

theorem unlock_endures :
    Endures volume excused keeps (volume.device.unlock range) (fun _ => keeps) keeps := by
  intro backing ready known
  cases isSpan : range.span with
  | error error =>
      rw [unlock, isSpan]
      exact .error ready trivial known
  | ok span =>
      rw [unlock, isSpan]
      exact .ok ⟨ready.long, ready.lockable, ready.own.release span⟩ known

end Device

namespace Endures

variable {volume : Volume} {excused : Crash → Prop} {before otherwise : Content → Prop}
  {after : α → Content → Prop} {body : Update α}

theorem withLock (range : ByteRange) (kind : LockKind)
    (endures : Endures volume excused before body after otherwise)
    (keeps : ∀ content, before content → otherwise content) :
    Endures volume excused before (volume.device.withLock range kind body) after otherwise := by
  refine .through before ?_ fun _ =>
    endures.ensuring (fun _ => Device.unlock_endures range) (Device.unlock_endures range)
  refine .through before ?_ fun _ => .pure fun _ known => known
  exact (Device.lock_endures range kind true).weaken (fun _ => id) (fun _ _ => id) keeps

end Endures

/-! The lock on the directory tree -/

/-- The counter of holders does not matter. -/
def Uncounted (geometry : Geometry) (keeps : Content → Prop) : Prop :=
  ∀ content count, keeps content →
    keeps (content.write (geometry.anchorBlock * geometry.blockSize) (.ofNat 8 count))

/-- The file as it stands for a party that has been counted in. -/
def Content.entered (content : Content) (geometry : Geometry) : Content :=
  content.write (geometry.anchorBlock * geometry.blockSize)
    (.ofNat 8 (content.holders geometry + 1))

namespace DirectoryLock

variable {volume : Volume} {excused : Crash → Prop} {keeps : Content → Prop}

theorem readHolders_bears :
    Bears volume excused keeps volume.directoryLock.readHolders fun _ _ => True :=
  (Device.readWord_bears keeps _).plain

section Counter

variable (uncounted : Uncounted volume.geometry keeps)

include uncounted

theorem writeHolders_endures (count : Nat) :
    Endures volume excused keeps (volume.directoryLock.writeHolders count) (fun _ => keeps) keeps :=
  Device.write_endures (by rw [Bytes.length_ofNat]; exact counter_end_le) fun content known =>
    uncounted content count known

theorem registerWith_endures {attempt : Update Bool}
    (endures : Endures volume excused keeps attempt (fun _ => keeps) keeps) :
    Endures volume excused keeps (volume.directoryLock.registerWith attempt) (fun _ => keeps)
      keeps := by
  refine Endures.withLock _ _ ?_ fun _ => id
  refine .asking readHolders_bears (fun _ => id) fun count _ => ?_
  refine .guard (fun _ => id) fun _ => ?_
  refine (writeHolders_endures uncounted _).bind fun _ => ?_
  refine .ite (fun _ => endures.tryCatch fun error => ?_) fun _ => .pure fun _ => id
  exact (writeHolders_endures uncounted _).bind fun _ => .throw error _ fun _ => id

theorem decrement_endures :
    Endures volume excused keeps volume.directoryLock.decrement (fun _ => keeps) keeps := by
  refine Endures.withLock _ _ ?_ fun _ => id
  refine .asking readHolders_bears (fun _ => id) fun count _ => ?_
  exact .ite (fun _ => writeHolders_endures uncounted _) fun _ => .pure fun _ => id

theorem unregister_endures :
    Endures volume excused keeps volume.directoryLock.unregister (fun _ => keeps) keeps := by
  refine .through keeps ?_ fun _ => .pure fun _ => id
  exact (decrement_endures uncounted).attempt (fun _ _ => id) fun _ _ => id

theorem acquire_endures (kind : LockKind) :
    Endures volume excused keeps (volume.directoryLock.acquire kind) (fun _ => keeps) keeps := by
  refine (registerWith_endures uncounted (Device.lock_endures _ kind false)).bind fun fast => ?_
  refine .ite (fun _ => ?_) fun _ => .pure fun _ => id
  refine Endures.tryCatch ?_ fun error => ?_
  · exact (Device.lock_endures _ kind true).bind fun _ => .pure fun _ => id
  · exact (unregister_endures uncounted).bind fun _ => .throw error _ fun _ => id

theorem release_endures :
    Endures volume excused keeps volume.directoryLock.release (fun _ => keeps) keeps := by
  refine .through keeps ?_ fun unlocked => ?_
  · exact (Device.unlock_endures _).attempt (fun _ _ => id) fun _ _ => id
  refine .through keeps ?_ fun decremented => ?_
  · exact (decrement_endures uncounted).attempt (fun _ _ => id) fun _ _ => id
  refine .through keeps ?_ fun _ => ?_
  · exact .except (fun _ _ _ => id) fun _ => id
  · exact .except (fun _ _ _ => id) fun _ => id

end Counter

/-- Whoever takes the lock finds the file as it was, but counted in. -/
theorem acquire_enters (start : Content) (kind : LockKind) :
    Endures volume excused (· = start) (volume.directoryLock.acquire kind)
      (fun _ content => content = start.entered volume.geometry) fun _ => True := by
  have anything : Uncounted volume.geometry fun _ => True := fun _ _ _ => trivial
  have counts : Bears volume excused (· = start) volume.directoryLock.readHolders
      fun count _ => count = start.holders volume.geometry :=
    (Device.readWord_bears _ _).weaken (fun _ => id) fun _ _ same found => by
      subst same
      exact found.symm
  have registers : Endures volume excused (· = start)
      (volume.directoryLock.registerWith (volume.directoryLock.request kind false))
      (fun _ content => content = start.entered volume.geometry) fun _ => True := by
    refine Endures.withLock _ _ ?_ fun _ _ => trivial
    refine .asking counts (fun _ _ => trivial) fun count isCount => ?_
    refine .guard (fun _ _ => trivial) fun _ => ?_
    refine .through (· = start.entered volume.geometry) ?_ fun _ => ?_
    · refine Device.write_endures (by rw [Bytes.length_ofNat]; exact counter_end_le) ?_
      rintro content rfl
      rw [isCount]
      rfl
    · refine .ite (fun _ => ?_) fun _ => .pure fun _ => id
      refine Endures.tryCatch ?_ fun error => ?_
      · exact (Device.lock_endures _ kind false).weaken (fun _ => id) (fun _ _ => id)
          fun _ _ => trivial
      · exact .through (fun _ => True) (writeHolders_endures anything _) fun _ =>
          .throw error _ fun _ => id
  refine registers.bind fun fast => .ite (fun _ => ?_) fun _ => .pure fun _ => id
  refine Endures.tryCatch ?_ fun error => ?_
  · refine .through (· = start.entered volume.geometry) ?_ fun _ => .pure fun _ => id
    exact (Device.lock_endures _ kind true).weaken (fun _ => id) (fun _ _ => id) fun _ _ => trivial
  · exact (unregister_endures anything).bind fun _ => .throw error _ fun _ => id

end DirectoryLock

namespace Endures

variable {volume : Volume} {excused : Crash → Prop} {before otherwise : Content → Prop}
  {after : α → Content → Prop} {body : Update α}

theorem withDirectoryLock (kind : LockKind)
    (endures : Endures volume excused before body after otherwise)
    (keeps : ∀ content, before content → otherwise content)
    (uncounted : Uncounted volume.geometry before)
    (uncounted' : ∀ value, Uncounted volume.geometry (after value))
    (uncounted'' : Uncounted volume.geometry otherwise) :
    Endures volume excused before (volume.withDirectoryLock kind body) after otherwise := by
  rw [Volume.withDirectoryLock, volume.directoryLock_of_volume]
  change Endures volume excused before (volume.directoryLock.hold kind body) after otherwise
  refine .through before ?_ fun _ => ?_
  · exact (DirectoryLock.acquire_endures uncounted kind).weaken (fun _ => id) (fun _ _ => id) keeps
  · exact endures.ensuring (fun value => DirectoryLock.release_endures (uncounted' value))
      (DirectoryLock.release_endures uncounted'')

end Endures

end ImageFs
