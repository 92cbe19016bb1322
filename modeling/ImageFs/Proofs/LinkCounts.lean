import ImageFs.Image.Check

/-!
Links counted in 32 bits. Main statements: counting adds what there is to count, modulo the range of a
counter, until a counter that may not wrap comes to its end; and the entries of a directory are judged
one by one while the links that are in order are counted.
-/

namespace ImageFs

namespace Check

variable {overflow : Overflow} {links : LinkCounts} {inode : Nat} {inodes first second : List Nat}

/-! Adding -/

theorem linkCount_addLink (links : LinkCounts) (inode number : Nat) :
    linkCount (addLink links inode) number =
      if number = inode then linkCount links number + 1 else linkCount links number := by
  rw [addLink, linkCount, List.lookup_cons]
  by_cases same : number = inode
  · subst same
    simp
  · rw [beq_false_of_ne same, if_neg same]
    rfl

/-- One more link to each of the inodes. -/
def addLinks (links : LinkCounts) (inodes : List Nat) : LinkCounts :=
  inodes.foldl addLink links

@[simp] theorem addLinks_cons (links : LinkCounts) (inode : Nat) (rest : List Nat) :
    addLinks links (inode :: rest) = addLinks (addLink links inode) rest := rfl

theorem addLinks_append (links : LinkCounts) (first second : List Nat) :
    addLinks links (first ++ second) = addLinks (addLinks links first) second :=
  List.foldl_append

theorem toNat_linkCount_addLinks (links : LinkCounts) (inodes : List Nat) (number : Nat) :
    (linkCount (addLinks links inodes) number).toNat =
      ((linkCount links number).toNat + inodes.count number) % Limit.word32 := by
  induction inodes generalizing links with
  | nil => exact (Nat.mod_eq_of_lt (linkCount links number).toNat_lt).symm
  | cons inode rest induction =>
      rw [addLinks_cons, induction, linkCount_addLink, List.count_cons]
      by_cases same : number = inode
      · subst same
        rw [if_pos rfl, beq_self_eq_true, if_pos rfl, UInt32.toNat_add, UInt32.toNat_one]
        simp only [Limit.word32]
        omega
      · rw [if_neg same, beq_false_of_ne (Ne.symm same), if_neg Bool.false_ne_true, Nat.add_zero]

/-- Nothing has been counted yet. -/
theorem toNat_linkCount_nil (inodes : List Nat) (number : Nat) :
    (linkCount (addLinks [] inodes) number).toNat = inodes.count number % Limit.word32 := by
  rw [toNat_linkCount_addLinks]
  exact congrArg (· % Limit.word32) (Nat.zero_add _)

/-! Room in the counters -/

/-- No counter comes to its end by one more link to each of the inodes, unless it may wrap. -/
def Room (overflow : Overflow) (links : LinkCounts) (inodes : List Nat) : Prop :=
  overflow = .breaks →
    ∀ number, (linkCount links number).toNat + inodes.count number < Limit.word32

theorem room_append : Room overflow links (first ++ second) ↔
    Room overflow links first ∧ Room overflow (addLinks links first) second := by
  simp only [Room, toNat_linkCount_addLinks, List.count_append]
  constructor
  · intro room
    refine ⟨fun breaks number => ?_, fun breaks number => ?_⟩
    · have := room breaks number
      omega
    · have := room breaks number
      rw [Nat.mod_eq_of_lt (by omega)]
      omega
  · rintro ⟨room, room'⟩ breaks number
    have here := room breaks number
    have later := room' breaks number
    rw [Nat.mod_eq_of_lt here] at later
    omega

theorem room_of_no_links : Room overflow links [] :=
  fun _ number => (linkCount links number).toNat_lt

theorem room_of_nodup (nodup : inodes.Nodup) : Room overflow [] inodes := by
  intro _ number
  have once := List.nodup_iff_count.mp nodup number
  have zero : (linkCount [] number).toNat = 0 := rfl
  simp only [Limit.word32]
  omega

/-- What stopped the counting: the counter of an inode that is linked too often. -/
structure Full (overflow : Overflow) (links : LinkCounts) (inodes : List Nat) (halt : Halt) :
    Prop where
  breaks : overflow = .breaks
  full : ∃ number, Limit.word32 ≤ (linkCount links number).toNat + inodes.count number ∧
    halt = .crashed (.linkOverflow number)

namespace Full

variable {halt : Halt}

theorem append_left (full : Full overflow links first halt) :
    Full overflow links (first ++ second) halt := by
  obtain ⟨breaks, number, many, isHalt⟩ := full
  refine ⟨breaks, number, ?_, isHalt⟩
  rw [List.count_append]
  omega

theorem append_right (full : Full overflow (addLinks links first) second halt) :
    Full overflow links (first ++ second) halt := by
  obtain ⟨breaks, number, many, isHalt⟩ := full
  refine ⟨breaks, number, ?_, isHalt⟩
  have less := Nat.mod_le ((linkCount links number).toNat + first.count number) Limit.word32
  rw [toNat_linkCount_addLinks] at many
  rw [List.count_append]
  omega

end Full

/-! Counting -/

theorem countLink_of_room (room : Room overflow links [inode]) :
    countLink overflow links inode = pure (addLink links inode) := by
  refine if_neg fun full => ?_
  have short := room full.1 inode
  rw [List.count_singleton_self] at short
  omega

theorem countLink_of_not_room (full : ¬ Room overflow links [inode]) :
    ∃ halt, countLink overflow links inode = Query.halt halt ∧ Full overflow links [inode] halt := by
  by_cases ends : overflow = .breaks ∧ Limit.word32 ≤ (linkCount links inode).toNat + 1
  · refine ⟨_, if_pos ends, ends.1, inode, ?_, rfl⟩
    rw [List.count_singleton_self]
    exact ends.2
  · refine absurd (fun breaks number => ?_) full
    have range := (linkCount links number).toNat_lt
    by_cases same : number = inode
    · subst same
      rw [List.count_singleton_self]
      exact Nat.lt_of_not_le fun many => ends ⟨breaks, many⟩
    · rw [List.count_singleton, beq_false_of_ne (Ne.symm same)]
      exact range

def countLinks (overflow : Overflow) (links : LinkCounts) (inodes : List Nat) : Query LinkCounts :=
  inodes.foldlM (countLink overflow) links

theorem countLinks_of_room (room : Room overflow links inodes) :
    countLinks overflow links inodes = pure (addLinks links inodes) := by
  induction inodes generalizing links with
  | nil => rfl
  | cons inode rest induction =>
      obtain ⟨here, later⟩ := room_append.mp (show Room overflow links ([inode] ++ rest) from room)
      rw [countLinks, List.foldlM_cons, countLink_of_room here, pure_bind]
      exact induction later

theorem countLinks_of_not_room (full : ¬ Room overflow links inodes) :
    ∃ halt, countLinks overflow links inodes = Query.halt halt ∧
      Full overflow links inodes halt := by
  induction inodes generalizing links with
  | nil => exact absurd room_of_no_links full
  | cons inode rest induction =>
      rw [countLinks, List.foldlM_cons]
      by_cases here : Room overflow links [inode]
      · have later : ¬ Room overflow (addLink links inode) rest := fun room =>
          full (room_append.mpr (show _ ∧ Room overflow (addLinks links [inode]) rest from
            ⟨here, room⟩))
        obtain ⟨halt, stops, full'⟩ := induction later
        rw [countLink_of_room here, pure_bind]
        have full'' : Full overflow (addLinks links [inode]) rest halt := full'
        exact ⟨halt, stops, full''.append_right⟩
      · obtain ⟨halt, stops, full'⟩ := countLink_of_not_room here
        rw [stops]
        exact ⟨halt, rfl, Full.append_left full'⟩

/-! The entries of a directory -/

section Entries

variable (nodes : LiveInodes) (directory : Nat)

/-- The inodes that entries in order link to. -/
def linkedBy (entries : List DirEntry) : List Nat :=
  (entries.filter fun entry => (fault? nodes directory entry).isNone).map
    fun entry => entry.inode.toNat

/-- What is found on the entries that come after those with the given names. -/
def entryFindings : List DirEntry → List String → List Finding
  | [], _ => []
  | entry :: rest, names =>
      (if names.contains entry.name then [Finding.duplicateName directory entry.name] else []) ++
        (fault? nodes directory entry).toList ++ entryFindings rest (entry.name :: names)

theorem checkEntries_eq (entries : List DirEntry) (names : List String) (links : LinkCounts) :
    checkEntries overflow nodes directory entries names links =
      (countLinks overflow links (linkedBy nodes directory entries) >>= fun links =>
        pure (links, entryFindings nodes directory entries names)) := by
  induction entries generalizing names links with
  | nil => rfl
  | cons entry rest induction =>
      rw [checkEntries, linkedBy, List.filter_cons, entryFindings]
      dsimp only
      cases fault? nodes directory entry with
      | some finding =>
          simp only [induction, Option.isSome_some, if_true, Option.isNone_some, Bool.false_eq_true,
            if_false, pure_bind, bind_assoc]
          rfl
      | none =>
          simp only [induction, Option.isSome_none, Bool.false_eq_true, if_false, Option.isNone_none,
            if_true, List.map_cons, countLinks, List.foldlM_cons, pure_bind, bind_assoc]
          rfl

variable {nodes directory} {entries : List DirEntry} {names : List String} {backing : Backing}

theorem checkEntries_ok {links' : LinkCounts} {findings : List Finding}
    (ends : checkEntries overflow nodes directory entries names links backing =
      .ok (links', findings)) :
    Room overflow links (linkedBy nodes directory entries) ∧
      links' = addLinks links (linkedBy nodes directory entries) ∧
      findings = entryFindings nodes directory entries names := by
  rw [checkEntries_eq] at ends
  by_cases room : Room overflow links (linkedBy nodes directory entries)
  · rw [countLinks_of_room room] at ends
    cases ends
    exact ⟨room, rfl, rfl⟩
  · obtain ⟨halt, stops, -⟩ := countLinks_of_not_room room
    rw [stops] at ends
    cases ends

theorem checkEntries_error {halt : Halt}
    (ends : checkEntries overflow nodes directory entries names links backing = .error halt) :
    Full overflow links (linkedBy nodes directory entries) halt := by
  rw [checkEntries_eq] at ends
  by_cases room : Room overflow links (linkedBy nodes directory entries)
  · rw [countLinks_of_room room] at ends
    cases ends
  · obtain ⟨halt', stops, full⟩ := countLinks_of_not_room room
    rw [stops] at ends
    cases ends
    exact full

end Entries

end Check

end ImageFs
