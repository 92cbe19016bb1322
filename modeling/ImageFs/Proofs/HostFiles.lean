import ImageFs.Host

/-!
The files of the host. Main statements: a file that is put where a name leads to a free place is the file
of that name, and a file that is put in the place of another one has its names.
-/

namespace ImageFs

theorem Except.exists_of_bind_ok {ε α β : Type} {first : Except ε α} {next : α → Except ε β}
    {value : β} (ends : (first >>= next) = .ok value) :
    ∃ middle, first = .ok middle ∧ next middle = .ok value := by
  cases first with
  | error cause => cases ends
  | ok middle => exact ⟨middle, rfl, ends⟩

namespace Host

variable {host : Host} {name : String} {path : HostPath}

theorem node?_put (host : Host) (path : HostPath) (node : HostNode) :
    (host.put path node).node? path = some node :=
  List.lookup_cons_self

theorem put_put (host : Host) (path : HostPath) (node node' : HostNode) :
    (host.put path node).put path node' = host.put path node' := by
  simp [put]

theorem node?_put_of_ne {other : HostPath} (different : other ≠ path) (node : HostNode) :
    (host.put path node).node? other = host.node? other := by
  have kept (nodes : List (HostPath × HostNode)) :
      (nodes.filter (·.1 ≠ path)).lookup other = nodes.lookup other := by
    induction nodes with
    | nil => rfl
    | cons head rest induction =>
        by_cases gone : head.1 = path
        · have isOther : (other == head.1) = false := by simpa [gone] using different
          rw [List.filter_cons_of_neg (by simpa using gone), induction, List.lookup_cons, isOther]
        · rw [List.filter_cons_of_pos (by simpa using gone), List.lookup_cons, List.lookup_cons,
            induction]
  have isOther : (other == path) = false := by simpa using different
  rw [node?, put, List.lookup_cons, isOther]
  exact kept host.nodes

/-- A node that is put where there was none and taken away again leaves no trace. -/
theorem erase_put (isFree : host.node? path = none) (node : HostNode) :
    (host.put path node).erase path = host := by
  have others : ∀ entry ∈ host.nodes, entry.1 ≠ path := by
    intro entry member same
    have absent := List.lookup_eq_none_iff.mp isFree entry member
    simp [same] at absent
  have kept : host.nodes.filter (·.1 ≠ path) = host.nodes :=
    List.filter_eq_self.mpr fun entry member => decide_eq_true (others entry member)
  simp only [erase, put]
  rw [List.filter_cons_of_neg (by simp), kept, kept]

/-- In a free place a file of zeros is made. If the host cannot express its length, the host is as
before. -/
theorem createDevice_of_place {length : Nat} (placed : host.place name = .ok (path, none))
    (isFree : host.node? path = none) :
    host.createDevice name length =
      if Limit.hostOffset ≤ length then (.error (.hostFile name .lengthTooLarge), host)
      else (.ok (path, { owner := host.nextOwner, length }),
        { host.put path (.file ⟨Content.empty.resize length, []⟩) with
          nextOwner := host.nextOwner + 1 }) := by
  rw [createDevice, placed]
  dsimp only
  by_cases long : Limit.hostOffset ≤ length
  · rw [setLength, if_pos long, if_pos long]
    dsimp only
    rw [erase_put isFree]
  · rw [setLength, if_neg long, if_neg long]
    dsimp only
    rw [put_put]
    rfl

/-- A name stands for a file as the entry of a directory, and it does not ask for a directory. -/
theorem file_eq_ok_iff {backing : Backing} : host.file name = .ok (path, backing) ↔
    ∃ parent part, host.locate name = .ok (.entry parent part) ∧
      entryPath parent part = .ok path ∧ ¬ name.endsWith "/" ∧
      host.node? path = some (.file backing) := by
  constructor
  · intro found
    obtain ⟨⟨path', node⟩, looked, found⟩ := Except.exists_of_bind_ok found
    cases node with
    | directory => cases found
    | file backing' =>
        cases found
        obtain ⟨target, located, looked⟩ := Except.exists_of_bind_ok looked
        cases target with
        | directory path' => cases looked
        | entry parent part =>
            obtain ⟨path', entered, looked⟩ := Except.exists_of_bind_ok looked
            cases node : host.node? path' with
            | none =>
                rw [node] at looked
                cases looked
            | some node' =>
                rw [node] at looked
                cases node' with
                | directory => cases looked
                | file backing' =>
                    dsimp only at looked
                    split at looked
                    · cases looked
                    · next plain =>
                      cases looked
                      exact ⟨parent, part, located, entered, plain, node⟩
  · rintro ⟨parent, part, located, entered, plain, isFile⟩
    have looked : host.lookup name = .ok (path, .file backing) := by
      rw [Host.lookup, located]
      change (entryPath parent part >>= fun path => _) = _
      rw [entered]
      dsimp only [bind, Except.bind]
      rw [isFile]
      dsimp only
      rw [if_neg plain]
      rfl
    rw [Host.file, looked]
    rfl

theorem node?_of_file {backing : Backing} (found : host.file name = .ok (path, backing)) :
    host.node? path = some (.file backing) := by
  obtain ⟨_, _, -, -, -, isFile⟩ := file_eq_ok_iff.mp found
  exact isFile

/-! Names in a host that has changed -/

/-- A later host, which still has the directories. -/
structure Later (before after : Host) : Prop where
  workingDirectory : after.workingDirectory = before.workingDirectory
  keeps : ∀ path, before.node? path = some .directory → after.node? path = some .directory

variable {before after : Host}

theorem follow_later (later : Later before after) {target : HostTarget} (parts : List String)
    (directory : HostPath) (follows : before.follow directory parts = .ok target) :
    after.follow directory parts = .ok target := by
  -- each directory on the way is still there, and nothing else is looked at
  induction parts generalizing directory with
  | nil => exact follows
  | cons part rest induction =>
      rw [Host.follow] at follows ⊢
      split
      · next turns =>
        rw [if_pos turns] at follows
        exact induction _ follows
      · next names =>
        rw [if_neg names] at follows
        split
        · next last =>
          rw [if_pos last] at follows
          exact follows
        · next more =>
          rw [if_neg more] at follows
          obtain ⟨path, entered, follows⟩ := Except.exists_of_bind_ok follows
          rw [entered]
          dsimp only [bind, Except.bind]
          cases isNode : before.node? path with
          | none =>
              rw [isNode] at follows
              cases follows
          | some node =>
              rw [isNode] at follows
              cases node with
              | directory =>
                  rw [later.keeps path isNode]
                  exact induction _ follows
              | file backing => cases follows

theorem locate_eq (host : Host) (name : String) :
    host.locate name =
      if name.toList.contains '\x00' then .error .nulInName
      else if name.isEmpty then .error .notFound
      else if HostPath.maxNameLength < name.utf8ByteSize then .error .nameTooLong
      else host.follow (HostPath.start host.workingDirectory name) (HostPath.partsOf name) := by
  rw [Host.locate]
  dsimp only
  split
  · rfl
  · split
    · rfl
    · split <;> rfl

theorem locate_later (later : Later before after) {target : HostTarget}
    (located : before.locate name = .ok target) : after.locate name = .ok target := by
  rw [locate_eq] at located ⊢
  split
  · next bad =>
    rw [if_pos bad] at located
    cases located
  · next notBad =>
    rw [if_neg notBad] at located
    split
    · next empty =>
      rw [if_pos empty] at located
      cases located
    · next notEmpty =>
      rw [if_neg notEmpty] at located
      split
      · next long =>
        rw [if_pos long] at located
        cases located
      · next short =>
        rw [if_neg short] at located
        rw [later.workingDirectory]
        exact follow_later later _ _ located

theorem of_place (placed : before.place name = .ok (path, none)) :
    ∃ parent part, before.locate name = .ok (.entry parent part) ∧
      entryPath parent part = .ok path ∧ ¬ name.endsWith "/" ∧ before.node? path = none := by
  obtain ⟨target, located, placed⟩ := Except.exists_of_bind_ok placed
  cases target with
  | directory path' => cases placed
  | entry parent part =>
      dsimp only at placed
      split at placed
      · cases placed
      · next plain =>
        obtain ⟨path', entered, placed⟩ := Except.exists_of_bind_ok placed
        obtain ⟨rfl, isFree⟩ := Prod.mk.inj (Except.ok.inj placed)
        exact ⟨parent, part, located, entered, plain, isFree⟩

theorem Later.refl (host : Host) : Later host host :=
  ⟨rfl, fun _ isDirectory => isDirectory⟩

theorem Later.put_of_ne (later : Later before after)
    (notDirectory : before.node? path ≠ some .directory) (backing : Backing) :
    Later before (after.put path (.file backing)) where
  workingDirectory := later.workingDirectory
  keeps other isDirectory := by
    rw [node?_put_of_ne ?_, later.keeps other isDirectory]
    rintro rfl
    exact notDirectory isDirectory

theorem Later.put (later : Later before after) (isFree : before.node? path = none)
    (backing : Backing) : Later before (after.put path (.file backing)) :=
  later.put_of_ne (by simp [isFree]) backing

/-- The file in a place that was free is the file of the name that led there. -/
theorem file_of_place (placed : before.place name = .ok (path, none)) (later : Later before after)
    {backing : Backing} (isFile : after.node? path = some (.file backing)) :
    after.file name = .ok (path, backing) := by
  obtain ⟨parent, part, located, entered, plain, -⟩ := of_place placed
  exact file_eq_ok_iff.mpr ⟨parent, part, locate_later later located, entered, plain, isFile⟩

/-- A name keeps leading to the place of its file. -/
theorem file_of_later (later : Later before after) {backing backing' : Backing}
    (found : before.file name = .ok (path, backing))
    (isFile : after.node? path = some (.file backing')) : after.file name = .ok (path, backing') := by
  obtain ⟨parent, part, located, entered, plain, -⟩ := file_eq_ok_iff.mp found
  exact file_eq_ok_iff.mpr ⟨parent, part, locate_later later located, entered, plain, isFile⟩

/-- A file that is stored in the place of another one has its names. -/
theorem file_put {backing : Backing} (found : host.file name = .ok (path, backing))
    (backing' : Backing) : (host.put path (.file backing')).file name = .ok (path, backing') := by
  have notDirectory : host.node? path ≠ some .directory := by
    simp [node?_of_file found]
  have later := (Later.refl host).put_of_ne notDirectory backing'
  exact file_of_later later found (node?_put host path _)

/-! Running -/

theorem run_of_file {α : Type} {backing after : Backing} {update : Update α} {answer : Except Halt α}
    (isFile : host.node? path = some (.file backing)) (ends : update backing = (answer, after)) :
    host.run path update = (answer, host.put path (.file after)) := by
  rw [Host.run, isFile]
  dsimp only
  rw [ends]

/-! Opening -/

/-- A new description has an owner that has not been used and the length of its file. -/
theorem of_openDevice {after : Host} {device : Device}
    (opened : host.openDevice name = .ok (path, device, after)) :
    ∃ backing, host.file name = .ok (path, backing) ∧
      device = ⟨host.nextOwner, backing.content.size⟩ ∧
      after = { host with nextOwner := host.nextOwner + 1 } := by
  rw [openDevice] at opened
  cases found : host.file name with
  | error cause =>
      rw [found] at opened
      cases opened
  | ok file =>
      rw [found] at opened
      cases opened
      exact ⟨_, rfl, rfl, rfl⟩

/-- Opening an image reads the superblock of its file, and the file stays as it is. -/
theorem openImage_of_file {backing : Backing} (isFile : host.file name = .ok (path, backing)) :
    host.openImage name =
      ((Image.ofDevice name ⟨host.nextOwner, backing.content.size⟩ backing).map fun image => ⟨path, image⟩,
        { host with nextOwner := host.nextOwner + 1 }.put path (.file backing)) := by
  let made : Host := { host with nextOwner := host.nextOwner + 1 }
  have before : host.node? path = some (.file backing) := node?_of_file isFile
  have found : made.node? path = some (.file backing) := before
  have runs : made.run path (Image.ofDevice name ⟨host.nextOwner, backing.content.size⟩ :
      Update Image) = _ := run_of_file found (Update.lift_apply _ backing)
  have opens : host.openDevice name = .ok (path, ⟨host.nextOwner, backing.content.size⟩, made) := by
    rw [openDevice, isFile]
    rfl
  rw [openImage, opens]
  dsimp only
  rw [runs]
  cases Image.ofDevice name ⟨host.nextOwner, backing.content.size⟩ backing <;> rfl

theorem of_openImage {after : Host} {mounted : Mounted}
    (opened : host.openImage name = (.ok mounted, after)) :
    ∃ backing, host.file name = .ok (mounted.path, backing) ∧
      Image.ofDevice name ⟨host.nextOwner, backing.content.size⟩ backing = .ok mounted.image ∧
      after = { host with nextOwner := host.nextOwner + 1 }.put mounted.path (.file backing) := by
  cases found : host.file name with
  | error cause =>
      rw [openImage, openDevice, found] at opened
      cases opened
  | ok file =>
      obtain ⟨path, backing⟩ := file
      rw [openImage_of_file found] at opened
      cases answered : Image.ofDevice name ⟨host.nextOwner, backing.content.size⟩ backing with
      | error halt =>
          rw [answered] at opened
          cases opened
      | ok image =>
          rw [answered] at opened
          cases opened
          exact ⟨backing, rfl, answered, rfl⟩

end Host

end ImageFs
