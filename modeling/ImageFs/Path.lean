import ImageFs.Error
import ImageFs.Text.Lossy

/-!
Absolute paths inside an image. A path names a list of components; slashes in a row count as one,
and the current and parent directory have no names. Main statement: the pieces between the slashes
contain no slash, and joining them gives the path back.
-/

namespace ImageFs.Path

/-- The longest name in bytes, so that the name field of an inode keeps a closing zero. -/
abbrev maxNameLength : Nat := 237

/-! Splitting at slashes -/

/-- The pieces between the slashes, empty ones included. -/
def pieces : List Char → List (List Char)
  | [] => [[]]
  | char :: rest =>
      if char = '/' then [] :: pieces rest
      else
        match pieces rest with
        | [] => [[char]]
        | piece :: others => (char :: piece) :: others

theorem pieces_ne_nil (chars : List Char) : pieces chars ≠ [] := by
  cases chars with
  | nil => simp [pieces]
  | cons char rest =>
      rw [pieces]
      split
      · simp
      · split <;> simp

theorem slash_notMem_of_mem_pieces {chars piece : List Char} (member : piece ∈ pieces chars) :
    '/' ∉ piece := by
  induction chars generalizing piece with
  | nil => simp [pieces] at member; simp [member]
  | cons char rest induction =>
      rw [pieces] at member
      split at member
      · rcases List.mem_cons.mp member with rfl | member
        · simp
        · exact induction member
      · next other =>
        split at member
        · next none => exact absurd none (pieces_ne_nil rest)
        · next head others split =>
          rcases List.mem_cons.mp member with rfl | member
          · have := induction (split ▸ List.mem_cons_self)
            simp [this, Ne.symm other]
          · exact induction (split ▸ List.mem_cons_of_mem _ member)

theorem intercalate_pieces (chars : List Char) :
    ['/'].intercalate (pieces chars) = chars := by
  induction chars with
  | nil => rfl
  | cons char rest induction =>
      rw [pieces]
      split
      · next slash =>
        cases split : pieces rest with
        | nil => exact absurd split (pieces_ne_nil rest)
        | cons head others =>
            rw [split] at induction
            simp [List.intercalate, List.intersperse] at induction ⊢
            exact ⟨slash.symm, induction⟩
      · split
        · next none => exact absurd none (pieces_ne_nil rest)
        · next head others split =>
          rw [split] at induction
          cases others with
          | nil => simpa [List.intercalate, List.intersperse] using induction
          | cons next others => simpa [List.intercalate, List.intersperse] using induction

/-! Components -/

/-- Checks one name of `path`. A name that is not allowed at all is reported before its length. -/
def checkName (path : String) (name : String) : Except FsError String :=
  if name = "." ∨ name = ".." ∨ '\x00' ∈ name.toList then .error (.invalidPath path)
  else if maxNameLength < name.utf8ByteSize then .error .nameTooLong
  else .ok name

/-- The names on an absolute path; the error is that of the leftmost bad name. -/
def components (path : String) : Except FsError (List String) :=
  match path.toList with
  | '/' :: rest =>
      ((pieces rest).filter (!·.isEmpty)).mapM fun piece => checkName path (String.ofList piece)
  | _ => .error (.invalidPath path)

/-- The names of the directory and the name in it. The root is in no directory. -/
def splitLast (path : String) : Except FsError (List String × String) := do
  let names ← components path
  match names.getLast? with
  | some name => .ok (names.dropLast, name)
  | none => .error (.invalidPath path)

end ImageFs.Path
