import ImageFs.Path
import Mathlib.Data.List.Induction

/-!
The grammar of paths: names, and slashes that part them. Main statement: a path has components exactly
when it starts with a slash and all of its names are allowed; these are then its names in their order,
however many slashes there are, and otherwise the leftmost name that is not allowed tells the error.
-/

namespace ImageFs.Path

/-! Texts of names and slashes -/

/-- The text is a row of slashes and of these names, of which each ends at a slash or with the text. -/
inductive Parted : List Char → List String → Prop where
  | nothing : Parted [] []
  | slash {text : List Char} {names : List String} (rest : Parted text names) :
      Parted ('/' :: text) names
  | name {name : String} {text : List Char} {names : List String} (nonempty : name ≠ "")
      (noSlash : '/' ∉ name.toList) (ends : ∀ char ∈ text.head?, char = '/')
      (rest : Parted text names) : Parted (name.toList ++ text) (name :: names)

/-- The pieces between the slashes that are not empty. -/
def namesIn (text : List Char) : List String :=
  ((pieces text).filter (!·.isEmpty)).map String.ofList

theorem pieces_slash (text : List Char) : pieces ('/' :: text) = [] :: pieces text := by
  rw [pieces, if_pos rfl]

theorem pieces_append_slash {piece : List Char} (noSlash : '/' ∉ piece) (rest : List Char) :
    pieces (piece ++ '/' :: rest) = piece :: pieces rest := by
  induction piece with
  | nil => exact pieces_slash rest
  | cons char piece induction =>
      rw [List.mem_cons, not_or] at noSlash
      rw [List.cons_append, pieces, if_neg (Ne.symm noSlash.1), induction noSlash.2]

theorem pieces_of_noSlash {piece : List Char} (noSlash : '/' ∉ piece) : pieces piece = [piece] := by
  induction piece with
  | nil => rfl
  | cons char piece induction =>
      rw [List.mem_cons, not_or] at noSlash
      rw [pieces, if_neg (Ne.symm noSlash.1), induction noSlash.2]

theorem namesIn_slash (text : List Char) : namesIn ('/' :: text) = namesIn text := by
  rw [namesIn, pieces_slash]
  rfl

theorem namesIn_name {name : String} {text : List Char} (nonempty : name ≠ "")
    (noSlash : '/' ∉ name.toList) (ends : ∀ char ∈ text.head?, char = '/') :
    namesIn (name.toList ++ text) = name :: namesIn text := by
  have some : name.toList ≠ [] := fun empty => nonempty (String.toList_inj.mp empty)
  cases text with
  | nil =>
      rw [List.append_nil, namesIn, pieces_of_noSlash noSlash]
      simp [some, namesIn, pieces]
  | cons char text =>
      obtain rfl : char = '/' := ends char rfl
      rw [namesIn_slash, namesIn, pieces_append_slash noSlash]
      simp [some, namesIn]

namespace Parted

variable {text : List Char} {names : List String}

theorem eq_namesIn (parted : Parted text names) : names = namesIn text := by
  induction parted with
  | nothing => rfl
  | slash rest induction => rw [namesIn_slash, induction]
  | name nonempty noSlash ends rest induction => rw [namesIn_name nonempty noSlash ends, induction]

/-- Parts without slashes, joined by slashes, are the names among them that are not empty. -/
theorem intercalate {parts : List (List Char)} (noSlash : ∀ part ∈ parts, '/' ∉ part) :
    Parted (['/'].intercalate parts) ((parts.filter (!·.isEmpty)).map String.ofList) := by
  have front (part : List Char) {text : List Char} {names : List String} (here : '/' ∉ part)
      (ends : ∀ char ∈ text.head?, char = '/') (rest : Parted text names) :
      Parted (part ++ text) (([part].filter (!·.isEmpty)).map String.ofList ++ names) := by
    cases part with
    | nil => exact rest
    | cons char part =>
        have isName := @Parted.name (String.ofList (char :: part)) text names
          (fun empty => List.cons_ne_nil char part (String.ofList_eq_empty_iff.mp empty))
        rw [String.toList_ofList] at isName
        exact isName here ends rest
  induction parts with
  | nil => exact .nothing
  | cons part rest induction =>
      have here := noSlash part List.mem_cons_self
      have others := induction fun other member => noSlash other (List.mem_cons_of_mem _ member)
      cases rest with
      | nil => simpa [List.intercalate] using front part here (by simp) .nothing
      | cons next rest =>
          have joined : ['/'].intercalate (part :: next :: rest) =
              part ++ '/' :: ['/'].intercalate (next :: rest) := by
            simp [List.intercalate, List.intersperse]
          have apart : part :: next :: rest = [part] ++ (next :: rest) := rfl
          rw [joined, apart, List.filter_append, List.map_append]
          exact front part here (by simp) others.slash

theorem slashes (parted : Parted text names) (count : Nat) :
    Parted (List.replicate count '/' ++ text) names := by
  induction count with
  | zero => exact parted
  | succ count induction => exact induction.slash

theorem noSlash_of_mem (parted : Parted text names) {name : String} (member : name ∈ names) :
    name ≠ "" ∧ '/' ∉ name.toList := by
  induction parted with
  | nothing => cases member
  | slash rest induction => exact induction member
  | name nonempty noSlash ends rest induction =>
      rcases List.mem_cons.mp member with rfl | member
      · exact ⟨nonempty, noSlash⟩
      · exact induction member

end Parted

/-- Every text has names between its slashes, and no others. -/
theorem parted_iff {text : List Char} {names : List String} :
    Parted text names ↔ names = namesIn text := by
  refine ⟨Parted.eq_namesIn, fun isNames => ?_⟩
  have parted := @Parted.intercalate (pieces text) fun _ => slash_notMem_of_mem_pieces
  rw [intercalate_pieces] at parted
  rw [isNames]
  exact parted

/-! Judging names -/

/-- A name that may stand in a path. -/
structure IsComponent (name : String) : Prop where
  nonempty : name ≠ ""
  noSlash : '/' ∉ name.toList
  notCurrent : name ≠ "."
  notParent : name ≠ ".."
  noZero : '\x00' ∉ name.toList
  short : name.utf8ByteSize ≤ maxNameLength

theorem checkName_of_isComponent {name : String} (isComponent : IsComponent name) (path : String) :
    checkName path name = .ok name := by
  rw [checkName, if_neg, if_neg (Nat.not_lt.mpr isComponent.short)]
  rintro (same | same | zero)
  · exact isComponent.notCurrent same
  · exact isComponent.notParent same
  · exact isComponent.noZero zero

/-- The error of a name that may not stand in a path. -/
def fault (path name : String) : FsError :=
  if name = "." ∨ name = ".." ∨ '\x00' ∈ name.toList then .invalidPath path else .nameTooLong

theorem checkName_of_not {name : String} (nonempty : name ≠ "") (noSlash : '/' ∉ name.toList)
    (wrong : ¬ IsComponent name) (path : String) : checkName path name = .error (fault path name) := by
  rw [checkName, fault]
  split
  · rfl
  · next allowed =>
    rw [not_or, not_or] at allowed
    refine if_pos (Nat.not_le.mp fun short => wrong ?_)
    exact ⟨nonempty, noSlash, allowed.1, allowed.2.1, allowed.2.2, short⟩

section MapM

variable {α ε : Type} {check : α → Except ε α}

theorem mapM_ok {items : List α} (passes : ∀ item ∈ items, check item = .ok item) :
    items.mapM check = .ok items := by
  induction items with
  | nil => rfl
  | cons item rest induction =>
      rw [List.mapM_cons, passes item List.mem_cons_self,
        induction fun other member => passes other (List.mem_cons_of_mem _ member)]
      rfl

theorem mapM_error {front back : List α} {bad : α} {error : ε}
    (passes : ∀ item ∈ front, check item = .ok item) (fails : check bad = .error error) :
    (front ++ bad :: back).mapM check = .error error := by
  rw [List.mapM_append, mapM_ok passes, List.mapM_cons, fails]
  rfl

end MapM

/-- Either all items of a list have a property, or there is a first one that has not. -/
theorem forall_or_exists_first {α : Type} (holds : α → Prop) (items : List α) :
    (∀ item ∈ items, holds item) ∨ ∃ front bad back, items = front ++ bad :: back ∧
      (∀ item ∈ front, holds item) ∧ ¬ holds bad := by
  induction items with
  | nil => exact .inl nofun
  | cons item rest induction =>
      by_cases here : holds item
      · rcases induction with all | ⟨front, bad, back, rfl, passes, fails⟩
        · exact .inl (List.forall_mem_cons.mpr ⟨here, all⟩)
        · exact .inr ⟨item :: front, bad, back, rfl, List.forall_mem_cons.mpr ⟨here, passes⟩, fails⟩
      · exact .inr ⟨[], item, rest, rfl, nofun, here⟩

/-! Components -/

variable {path : String}

theorem components_of_slash (absolute : path.toList.head? = some '/') :
    components path = (namesIn path.toList).mapM (checkName path) := by
  obtain ⟨rest, isPath⟩ := List.head?_eq_some_iff.mp absolute
  rw [components, isPath, namesIn_slash, namesIn, List.mapM_map]
  rfl

theorem components_of_not (relative : path.toList.head? ≠ some '/') :
    components path = .error (.invalidPath path) := by
  rw [components]
  split
  · next rest isPath => exact absurd (by rw [isPath]; rfl) relative
  · rfl

theorem components_of_all (absolute : path.toList.head? = some '/')
    (allowed : ∀ name ∈ namesIn path.toList, IsComponent name) :
    components path = .ok (namesIn path.toList) := by
  rw [components_of_slash absolute]
  exact mapM_ok fun name member => checkName_of_isComponent (allowed name member) path

theorem components_of_first {front back : List String} {bad : String}
    (absolute : path.toList.head? = some '/') (isNames : namesIn path.toList = front ++ bad :: back)
    (allowed : ∀ name ∈ front, IsComponent name) (wrong : ¬ IsComponent bad) :
    components path = .error (fault path bad) := by
  obtain ⟨nonempty, noSlash⟩ := (parted_iff.mpr rfl : Parted path.toList _).noSlash_of_mem
    (isNames ▸ List.mem_append_right front List.mem_cons_self : bad ∈ _)
  rw [components_of_slash absolute, isNames]
  exact mapM_error (fun name member => checkName_of_isComponent (allowed name member) path)
    (checkName_of_not nonempty noSlash wrong path)

theorem components_eq_ok_iff {names : List String} :
    components path = .ok names ↔ path.toList.head? = some '/' ∧
      (∀ name ∈ namesIn path.toList, IsComponent name) ∧ names = namesIn path.toList := by
  by_cases absolute : path.toList.head? = some '/'
  · rcases forall_or_exists_first IsComponent (namesIn path.toList) with
      all | ⟨front, bad, back, isNames, passes, wrong⟩
    · rw [components_of_all absolute all, Except.ok.injEq]
      exact ⟨fun same => ⟨absolute, all, same.symm⟩, fun facts => facts.2.2.symm⟩
    · rw [components_of_first absolute isNames passes wrong]
      refine ⟨nofun, fun facts => absurd (facts.2.1 bad ?_) wrong⟩
      exact isNames ▸ List.mem_append_right front List.mem_cons_self
  · rw [components_of_not absolute]
    exact ⟨nofun, fun facts => absurd facts.1 absolute⟩

theorem components_error {error : FsError} (fails : components path = .error error) :
    error = .invalidPath path ∨ error = .nameTooLong := by
  by_cases absolute : path.toList.head? = some '/'
  · rcases forall_or_exists_first IsComponent (namesIn path.toList) with
      all | ⟨front, bad, back, isNames, passes, wrong⟩
    · rw [components_of_all absolute all] at fails
      cases fails
    · rw [components_of_first absolute isNames passes wrong] at fails
      cases fails
      rw [fault]
      split
      · exact .inl rfl
      · exact .inr rfl
  · rw [components_of_not absolute] at fails
    cases fails
    exact .inl rfl

/-! Paths with given names -/

/-- Each name behind one slash and as many more as are given with it, and slashes at the end. -/
def spread (names : List (Nat × String)) (trailing : Nat) : String :=
  String.ofList ((names.flatMap fun (more, name) => List.replicate (more + 1) '/' ++ name.toList) ++
    List.replicate trailing '/')

theorem parted_spread {names : List (Nat × String)} (trailing : Nat)
    (isNames : ∀ name ∈ names, name.2 ≠ "" ∧ '/' ∉ name.2.toList) :
    Parted (spread names trailing).toList (names.map Prod.snd) ∧
      ∀ char ∈ (spread names trailing).toList.head?, char = '/' := by
  simp only [spread, String.toList_ofList]
  induction names with
  | nil =>
      refine ⟨?_, ?_⟩
      · simpa using Parted.nothing.slashes trailing
      · cases trailing <;> simp [List.replicate_succ]
  | cons head rest induction =>
      obtain ⟨more, name⟩ := head
      obtain ⟨nonempty, noSlash⟩ := isNames _ List.mem_cons_self
      obtain ⟨parted, ends⟩ := induction fun other member => isNames other (.tail _ member)
      rw [List.flatMap_cons, List.append_assoc, List.append_assoc]
      exact ⟨(Parted.name nonempty noSlash ends parted).slashes (more + 1), by simp [List.replicate_succ]⟩

/-- Slashes beside those that part the names make no difference. -/
theorem components_spread {names : List (Nat × String)} {trailing : Nat}
    (some : 0 < names.length + trailing) (allowed : ∀ name ∈ names, IsComponent name.2) :
    components (spread names trailing) = .ok (names.map Prod.snd) := by
  obtain ⟨parted, slashes⟩ := @parted_spread names trailing fun name member =>
    ⟨(allowed name member).nonempty, (allowed name member).noSlash⟩
  have isNames := parted_iff.mp parted
  refine components_eq_ok_iff.mpr ⟨?_, fun name member => ?_, isNames⟩
  · cases isText : (spread names trailing).toList with
    | nil =>
        simp only [spread, String.toList_ofList, List.append_eq_nil_iff, List.flatMap_eq_nil_iff,
          List.replicate_eq_nil_iff] at isText
        obtain ⟨none, rfl⟩ := isText
        cases names with
        | nil => exact absurd some (by simp)
        | cons head rest => exact absurd (none head List.mem_cons_self).1 (by simp)
    | cons char text =>
        rw [isText] at slashes
        rw [List.head?_cons, slashes char rfl]
  · rw [← isNames] at member
    obtain ⟨name', member', rfl⟩ := List.mem_map.mp member
    exact allowed name' member'

/-- There is a path with any components. -/
theorem exists_components {names : List String} (areComponents : ∀ name ∈ names, IsComponent name) :
    ∃ path, components path = .ok names := by
  have spread := @components_spread (names.map fun name => (0, name)) 1 (by simp) (by simpa)
  rw [List.map_map] at spread
  exact ⟨_, spread.trans (congrArg Except.ok (List.map_id names))⟩

/-! The last name -/

/-- The last name is split off, unless there are no components or none to split off. -/
theorem splitLast_cases (path : String) :
    (∃ error, components path = .error error ∧ splitLast path = .error error) ∨
    (components path = .ok [] ∧ splitLast path = .error (.invalidPath path)) ∨
    ∃ parents name, components path = .ok (parents ++ [name]) ∧ splitLast path = .ok (parents, name) := by
  cases found : components path with
  | error error => exact .inl ⟨error, rfl, by rw [splitLast, found]; rfl⟩
  | ok names =>
      refine .inr ?_
      cases names using List.reverseRecOn with
      | nil => exact .inl ⟨rfl, by rw [splitLast, found]; rfl⟩
      | append_singleton parents name =>
          refine .inr ⟨parents, name, rfl, ?_⟩
          simp only [splitLast, found, bind, Except.bind, List.getLast?_concat, List.dropLast_concat]

theorem components_of_splitLast {name : String} {parents : List String}
    (split : splitLast path = .ok (parents, name)) : components path = .ok (parents ++ [name]) := by
  rcases splitLast_cases path with
    ⟨error, found, refused⟩ | ⟨found, refused⟩ | ⟨others, other, found, isLast⟩
  · cases refused.symm.trans split
  · cases refused.symm.trans split
  · cases isLast.symm.trans split
    exact found

theorem splitLast_error {error : FsError} (fails : splitLast path = .error error) :
    error = .invalidPath path ∨ error = .nameTooLong := by
  rcases splitLast_cases path with
    ⟨cause, found, refused⟩ | ⟨found, refused⟩ | ⟨parents, name, found, isLast⟩
  · cases refused.symm.trans fails
    exact components_error found
  · cases refused.symm.trans fails
    exact .inl rfl
  · cases isLast.symm.trans fails

/-! The grammar -/

/-- What is asked of a name between slashes. -/
def Allowed (name : String) : Prop :=
  name ≠ "." ∧ name ≠ ".." ∧ '\x00' ∉ name.toList ∧ name.utf8ByteSize ≤ 237

theorem Parted.allowed_iff {text : List Char} {names : List String} (parted : Parted text names)
    {name : String} (member : name ∈ names) : Allowed name ↔ IsComponent name := by
  obtain ⟨nonempty, noSlash⟩ := parted.noSlash_of_mem member
  exact ⟨fun ⟨current, parent, zero, short⟩ => ⟨nonempty, noSlash, current, parent, zero, short⟩,
    fun ⟨_, _, current, parent, zero, short⟩ => ⟨current, parent, zero, short⟩⟩

/-- How a path with these names is taken apart. -/
structure Splits (path : String) (names : List String) : Prop where
  parted (others : List String) : Parted path.toList others ↔ others = names
  accepted (found : List String) : components path = .ok found ↔
    path.toList.head? = some '/' ∧ (∀ name ∈ names, Allowed name) ∧ found = names
  relative (notAbsolute : path.toList.head? ≠ some '/') :
    components path = .error (.invalidPath path)
  leftmost (absolute : path.toList.head? = some '/') (front back : List String) (bad : String)
    (isNames : names = front ++ bad :: back) (allowed : ∀ name ∈ front, Allowed name)
    (wrong : ¬ Allowed bad) : components path = .error (fault path bad)
  last (parents : List String) (name : String) :
    splitLast path = .ok (parents, name) ↔ components path = .ok (parents ++ [name])
  lastInvalid (text : String) : splitLast path = .error (.invalidPath text) ↔
    components path = .error (.invalidPath text) ∨ components path = .ok [] ∧ path = text
  lastTooLong : splitLast path = .error .nameTooLong ↔ components path = .error .nameTooLong
  lastError (error : FsError) (fails : splitLast path = .error error) :
    error = .invalidPath path ∨ error = .nameTooLong

theorem splits (path : String) : Splits path (namesIn path.toList) := by
  have parted : Parted path.toList (namesIn path.toList) := parted_iff.mpr rfl
  constructor
  case parted => exact fun others => parted_iff
  case accepted =>
    intro found
    rw [components_eq_ok_iff]
    refine and_congr_right fun _ => and_congr_left fun _ => ?_
    exact forall₂_congr fun name member => (parted.allowed_iff member).symm
  case relative => exact components_of_not
  case leftmost =>
    intro absolute front back bad isNames allowed wrong
    rw [isNames] at parted
    refine components_of_first absolute isNames (fun name member => ?_) fun isComponent => wrong ?_
    · exact (parted.allowed_iff (List.mem_append_left _ member)).mp (allowed name member)
    · exact (parted.allowed_iff (List.mem_append_right _ List.mem_cons_self)).mpr isComponent
  case last =>
    intro parents name
    rcases splitLast_cases path with
      ⟨error, found, split⟩ | ⟨found, split⟩ | ⟨others, other, found, split⟩
    all_goals rw [found, split]; simp
  case lastInvalid =>
    intro text
    rcases splitLast_cases path with
      ⟨error, found, split⟩ | ⟨found, split⟩ | ⟨parents, name, found, split⟩
    all_goals rw [found, split]; simp
  case lastTooLong =>
    rcases splitLast_cases path with
      ⟨error, found, split⟩ | ⟨found, split⟩ | ⟨parents, name, found, split⟩
    all_goals rw [found, split]; simp
  case lastError => exact fun error => splitLast_error

/-- Every path is taken apart by the grammar, and the names of a path come back from it with any
slashes between, before and after them. -/
theorem components_grammar : (∀ path : String, ∃ names : List String, Splits path names) ∧
    ∀ (names : List (Nat × String)) (trailing : Nat), 0 < names.length + trailing →
      (∀ name ∈ names, IsComponent name.2) →
      components (spread names trailing) = .ok (names.map Prod.snd) :=
  ⟨fun path => ⟨_, splits path⟩, fun _ _ => components_spread⟩

theorem components_grammar_slashes : spread [(2, "a"), (0, "b")] 1 = "///a/b/" ∧
    components (spread [(2, "a"), (0, "b")] 1) = .ok ["a", "b"] := by
  refine ⟨by decide, components_grammar.2 [(2, "a"), (0, "b")] 1 (by decide) ?_⟩
  intro name member
  rcases List.mem_cons.mp member with rfl | member
  · exact ⟨by decide, by decide, by decide, by decide, by decide, by decide⟩
  · rcases List.mem_singleton.mp member with rfl
    exact ⟨by decide, by decide, by decide, by decide, by decide, by decide⟩

end ImageFs.Path
