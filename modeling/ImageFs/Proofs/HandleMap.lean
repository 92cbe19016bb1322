import Mathlib.Data.Finmap
import Mathlib.Data.Fintype.EquivFin
import ImageFs.Proofs.Handles

/-!
The table of open files as a finite map from handles to files. Main statement: calls on a new table are
answered as on the empty map, where a file that is opened gets the least handle that is not in use; and
the table that they leave holds the files of the map and does not end in a free slot.
-/

namespace ImageFs

/-- Open files by their handles. -/
abbrev HandleMap : Type :=
  Finmap fun _ : Nat => OpenFile

/-- The least handle that is not in use. -/
def HandleMap.leastFree (map : HandleMap) : Nat :=
  Nat.find (Infinite.exists_notMem_finset map.keys)

theorem HandleMap.card_insert_le (map : HandleMap) (handle : Nat) (file : OpenFile) :
    (map.insert handle file).keys.card ≤ map.keys.card + 1 := by
  have isKeys : (map.insert handle file).keys = insert handle map.keys := by
    ext other
    simp only [Finmap.mem_keys, Finmap.mem_insert, Finset.mem_insert]
  rw [isKeys]
  exact Finset.card_insert_le handle map.keys

/-! The slots as a map -/

namespace OpenFiles

/-- The table finds the files of the map, and no free slot is left at its end. -/
structure Tabulates (files : OpenFiles) (map : HandleMap) : Prop where
  finds : ∀ handle, files.get? handle = map.lookup handle
  tight : files.slots.getLast? ≠ some none

variable {files : OpenFiles} {slots : List (Option OpenFile)}

theorem isSome_of_lt_lowestFree {handle : Nat} (lower : handle < lowestFree files.slots) :
    (files.get? handle).isSome := by
  have inside : handle < files.slots.length := Nat.lt_of_lt_of_le lower (lowestFree_le _)
  have taken : files.slots[handle].isNone = false := List.not_of_lt_findIdx lower
  rw [get?, List.getElem?_eq_getElem inside, Option.join_some]
  exact Option.isNone_eq_false_iff.mp taken

/-- The files are as many as the handles under which there is one. -/
theorem count_eq_card {handles : Finset Nat}
    (inUse : ∀ handle, handle ∈ handles ↔ (files.get? handle).isSome) :
    files.count = handles.card := by
  have isSlots : (List.range files.slots.length).map files.get? = files.slots := by
    refine List.ext_getElem (by simp) fun index _ inside => ?_
    rw [List.getElem_map, List.getElem_range, get?, List.getElem?_eq_getElem inside]
    rfl
  have isHandles : handles =
      ((List.range files.slots.length).filter fun handle => (files.get? handle).isSome).toFinset := by
    ext handle
    rw [inUse, List.mem_toFinset, List.mem_filter, List.mem_range, and_iff_right_of_imp]
    intro isOpen
    by_contra outside
    rw [get?, List.getElem?_eq_none (Nat.not_lt.mp outside)] at isOpen
    cases isOpen
  rw [count, ← isSlots, List.countP_map, List.countP_eq_length_filter, isHandles,
    List.toFinset_card_of_nodup (List.nodup_range.filter _)]
  rfl

/-! The end of the table -/

theorem getLast?_set_ne (tight : slots.getLast? ≠ some none) (index : Nat) (file : OpenFile) :
    (slots.set index (some file)).getLast? ≠ some none := by
  rw [List.getLast?_eq_getElem?, List.length_set, List.getElem?_set]
  rw [List.getLast?_eq_getElem?] at tight
  split
  · split <;> simp
  · exact tight

theorem getLast?_place_ne (tight : slots.getLast? ≠ some none) (index : Nat) (file : OpenFile) :
    (place slots index file).getLast? ≠ some none := by
  rw [place]
  split
  · exact getLast?_set_ne tight index file
  · simp

theorem getLast?_dropTrailing_ne (slots : List (Option OpenFile)) :
    (dropTrailing slots).getLast? ≠ some none := by
  rw [dropTrailing, List.getLast?_reverse]
  intro isFree
  have kept := List.head?_dropWhile_not Option.isNone slots.reverse
  rw [isFree] at kept
  cases kept

end OpenFiles

/-! Calls -/

/-- A call on the table of open files. -/
inductive HandleCall where
  | insert (file : OpenFile)
  | get (handle : Nat)
  | setOffset (handle offset : Nat)
  | remove (handle : Nat)

/-- What a call gives when it succeeds. -/
inductive HandleAnswer where
  | handle (handle : Nat)
  | file (file : OpenFile)
  | done
deriving DecidableEq

namespace HandleCall

def onTable (files : OpenFiles) : HandleCall → Except FsError HandleAnswer × OpenFiles
  | insert file => ((files.insert file).1.map .handle, (files.insert file).2)
  | get handle => ((files.get handle).map .file, files)
  | setOffset handle offset =>
      match files.setOffset handle offset with
      | .ok files => (.ok .done, files)
      | .error error => (.error error, files)
  | remove handle =>
      match files.remove handle with
      | .ok (file, files) => (.ok (.file file), files)
      | .error error => (.error error, files)

/-- What the call is to answer, and to make of the files by their handles. -/
def onMap (map : HandleMap) : HandleCall → Except FsError HandleAnswer × HandleMap
  | insert file => (.ok (.handle map.leastFree), map.insert map.leastFree file)
  | get handle =>
      match map.lookup handle with
      | some file => (.ok (.file file), map)
      | none => (.error (.unknownHandle handle), map)
  | setOffset handle offset =>
      match map.lookup handle with
      | some file => (.ok .done, map.insert handle { file with offset })
      | none => (.error (.unknownHandle handle), map)
  | remove handle =>
      match map.lookup handle with
      | some file => (.ok (.file file), map.erase handle)
      | none => (.error (.unknownHandle handle), map)

/-- The answers to calls one after another, and what the last one leaves. -/
def serve {σ : Type} (step : σ → HandleCall → Except FsError HandleAnswer × σ) (state : σ) :
    List HandleCall → List (Except FsError HandleAnswer) × σ
  | [] => ([], state)
  | call :: calls =>
      let (answer, next) := step state call
      let (answers, last) := serve step next calls
      (answer :: answers, last)

/-! Each call opens at most one file -/

theorem card_onMap_le (map : HandleMap) (call : HandleCall) :
    (call.onMap map).2.keys.card ≤ map.keys.card + 1 := by
  cases call with
  | insert file => exact map.card_insert_le map.leastFree file
  | get handle =>
      rw [onMap]
      split <;> exact Nat.le_succ _
  | setOffset handle offset =>
      rw [onMap]
      split
      · exact map.card_insert_le handle _
      · exact Nat.le_succ _
  | remove handle =>
      rw [onMap]
      split
      · rw [Finmap.keys_erase]
        exact (Finset.card_erase_le).trans (Nat.le_succ _)
      · exact Nat.le_succ _

theorem card_serve_le (map : HandleMap) (calls : List HandleCall) :
    (serve onMap map calls).2.keys.card ≤ map.keys.card + calls.length := by
  induction calls generalizing map with
  | nil => exact Nat.le_refl _
  | cons call calls induction =>
      have first := card_onMap_le map call
      have others := induction (call.onMap map).2
      rw [List.length_cons]
      exact others.trans (by omega)

end HandleCall

namespace OpenFiles.Tabulates

variable {files : OpenFiles} {map : HandleMap} (tabulates : files.Tabulates map)

theorem empty : OpenFiles.empty.Tabulates ∅ :=
  ⟨fun _ => rfl, by simp [OpenFiles.empty]⟩

include tabulates

theorem mem_iff {handle : Nat} : handle ∈ map.keys ↔ (files.get? handle).isSome := by
  rw [tabulates.finds, Finmap.lookup_isSome, Finmap.mem_keys]

theorem count_eq : files.count = map.keys.card :=
  count_eq_card fun _ => tabulates.mem_iff

theorem lowestFree_eq : lowestFree files.slots = map.leastFree := by
  refine ((Nat.find_eq_iff _).mpr ⟨?_, fun handle lower => ?_⟩).symm
  · rw [tabulates.mem_iff, get?_lowestFree]
    exact Bool.false_ne_true
  · exact not_not_intro (tabulates.mem_iff.mpr (isSome_of_lt_lowestFree lower))

theorem insert (file : OpenFile) :
    (files.insert file).2.Tabulates (map.insert map.leastFree file) where
  finds handle := by
    rw [get?_insert, tabulates.lowestFree_eq]
    split
    · next same => rw [same, Finmap.lookup_insert]
    · next different => rw [Finmap.lookup_insert_of_ne _ different, tabulates.finds]
  tight := getLast?_place_ne tabulates.tight _ file

theorem moved {handle : Nat} {file : OpenFile} (isOpen : files.get handle = .ok file) (offset : Nat) :
    (files.moved handle file offset).Tabulates (map.insert handle { file with offset }) where
  finds other := by
    rw [get?_moved isOpen]
    split
    · next same => rw [same, Finmap.lookup_insert]
    · next different => rw [Finmap.lookup_insert_of_ne _ different, tabulates.finds]
  tight := getLast?_set_ne tabulates.tight handle _

theorem remove {handle : Nat} {file : OpenFile} {files' : OpenFiles}
    (removed : files.remove handle = .ok (file, files')) : files'.Tabulates (map.erase handle) where
  finds other := by
    rw [get?_remove removed]
    split
    · next same => rw [same, Finmap.lookup_erase]
    · next different => rw [Finmap.lookup_erase_ne different, tabulates.finds]
  tight := by
    rw [OpenFiles.remove] at removed
    split at removed
    · cases removed
      exact getLast?_dropTrailing_ne _
    · cases removed

/-- A call is answered as it is to be, and it leaves the files that it is to leave. -/
theorem step (few : map.keys.card < Limit.word32) (call : HandleCall) :
    (call.onTable files).1 = (call.onMap map).1 ∧
      (call.onTable files).2.Tabulates (call.onMap map).2 := by
  cases call with
  | insert file =>
      have answer : (files.insert file).1 = .ok map.leastFree := by
        rw [insert_answer (tabulates.count_eq ▸ few), tabulates.lowestFree_eq]
      exact ⟨congrArg (Except.map HandleAnswer.handle) answer, tabulates.insert file⟩
  | get handle =>
      rw [HandleCall.onTable, HandleCall.onMap, OpenFiles.get, tabulates.finds]
      cases map.lookup handle with
      | some file => exact ⟨rfl, tabulates⟩
      | none => exact ⟨rfl, tabulates⟩
  | setOffset handle offset =>
      rw [HandleCall.onTable, HandleCall.onMap, OpenFiles.setOffset, tabulates.finds]
      cases isOpen : map.lookup handle with
      | some file =>
          have found : files.get handle = .ok file := by
            rw [get_eq_ok, tabulates.finds, isOpen]
          exact ⟨rfl, tabulates.moved found offset⟩
      | none => exact ⟨rfl, tabulates⟩
  | remove handle =>
      rw [HandleCall.onTable, HandleCall.onMap]
      cases isOpen : map.lookup handle with
      | some file =>
          obtain ⟨files', removed⟩ : ∃ files', files.remove handle = .ok (file, files') :=
            ⟨_, by rw [OpenFiles.remove, tabulates.finds, isOpen]⟩
          rw [removed]
          exact ⟨rfl, tabulates.remove removed⟩
      | none =>
          rw [OpenFiles.remove, tabulates.finds, isOpen]
          exact ⟨rfl, tabulates⟩

/-- So are calls one after another. -/
theorem serve {calls : List HandleCall} (few : ∀ front, front <+: calls →
      (HandleCall.serve HandleCall.onMap map front).2.keys.card < Limit.word32) :
    (HandleCall.serve HandleCall.onTable files calls).1 =
        (HandleCall.serve HandleCall.onMap map calls).1 ∧
      (HandleCall.serve HandleCall.onTable files calls).2.Tabulates
        (HandleCall.serve HandleCall.onMap map calls).2 := by
  induction calls generalizing files map with
  | nil => exact ⟨rfl, tabulates⟩
  | cons call calls induction =>
      obtain ⟨answer, next⟩ := tabulates.step (few [] List.nil_prefix) call
      obtain ⟨answers, last⟩ := induction next fun front isFront =>
        few (call :: front) (List.cons_prefix_cons.mpr ⟨rfl, isFront⟩)
      exact ⟨congrArg₂ List.cons answer answers, last⟩

end OpenFiles.Tabulates

namespace HandleCall

/-- Calls on a new table, with fewer than 2^32 files open at any time, are answered as on a map from
handles to files. The table that they leave finds the files of the map, counts them, and does not end in
a free slot. -/
theorem serve_as_map (calls : List HandleCall)
    (few : ∀ front, front <+: calls → (serve onMap ∅ front).2.keys.card < Limit.word32) :
    let served := serve onTable OpenFiles.empty calls
    let expected := serve onMap ∅ calls
    served.1 = expected.1 ∧ (∀ handle, served.2.get? handle = expected.2.lookup handle) ∧
      served.2.count = expected.2.keys.card ∧ served.2.slots.getLast? ≠ some none := by
  intro served expected
  obtain ⟨answers, tabulates⟩ := OpenFiles.Tabulates.empty.serve few
  exact ⟨answers, tabulates.finds, tabulates.count_eq, tabulates.tight⟩

/-- Two holes are left and the lower one is filled again; when the last file goes, so does the other. -/
theorem serve_as_map_holes :
    let file (inode : Nat) : OpenFile := ⟨inode, 0, "f", 0, .readOnly⟩
    let calls := [insert (file 2), insert (file 3), insert (file 4), remove 1, remove 0, get 1,
      insert (file 5), setOffset 2 9, get 0, remove 2]
    (∀ front, front <+: calls → (serve onMap ∅ front).2.keys.card < Limit.word32) ∧
      (serve onMap ∅ calls).1 = [.ok (.handle 0), .ok (.handle 1), .ok (.handle 2),
        .ok (.file (file 3)), .ok (.file (file 2)), .error (.unknownHandle 1), .ok (.handle 0), .ok .done,
        .ok (.file (file 5)), .ok (.file { file 4 with offset := 9 })] ∧
      (serve onTable OpenFiles.empty calls).2 = ⟨[some (file 5)]⟩ ∧
      (serve onMap ∅ calls).2.keys.card = 1 := by
  intro file calls
  have few (front : List HandleCall) (isFront : front <+: calls) :
      (serve onMap ∅ front).2.keys.card < Limit.word32 := by
    have bound := card_serve_le ∅ front
    have short : front.length ≤ 10 := isFront.length_le
    rw [Finmap.keys_empty, Finset.card_empty] at bound
    exact Nat.lt_of_le_of_lt (bound.trans (by omega)) (show 10 < Limit.word32 by decide)
  obtain ⟨answers, -, counted, -⟩ := serve_as_map calls few
  exact ⟨few, answers.symm.trans (by decide), by decide, counted.symm.trans (by decide)⟩

end HandleCall

end ImageFs
