import ImageFs.Proofs.Unseen

/-!
What a report without findings says. Main statements: whatever the bytes of a file, a check that ends
has no findings exactly when the metadata is sound as it stands while the check holds the directory
lock, and then the entries of the directories form a tree but for what lies behind the anchor or behind
a cycle of directories. Where counters wrap, both hold of files with fewer inodes than a counter can
tell.
-/

namespace ImageFs

/-! Entries of files in order -/

namespace Represents

variable {volume : Volume} {backing : Backing} {tree : Tree} {chain : Nat → List Nat}

/-- The entries of a directory lead to its children. -/
theorem child?_eq (represents : Represents volume.geometry (Disk.of volume.geometry backing.content)
      tree chain) (ready : volume.Ready backing) {directory : Nat} {children : List Child}
    (body : (tree directory).body = .directory children)
    (isDirectory : backing.content.Directory volume.geometry directory) (slot : Nat) :
    backing.content.child? volume.geometry directory slot = children[slot]?.map Child.inode := by
  have stored := represents.stored
  have answers := stored.list_answers body isDirectory.live.inside backing ready rfl
  have judged := (volume.list_judges backing isDirectory).value answers
  have isListed : backing.content.listed volume.geometry directory = children.map Child.entry := by
    rw [Content.listed, judged]
    rfl
  rw [Content.child?, if_pos isDirectory, isListed, List.getElem?_map, Option.map_map]
  refine Option.map_congr fun child member => ?_
  exact stored.entry_inode body (List.mem_of_getElem? member)

end Represents

namespace Session

variable {geometry : Geometry} {session : Session}

/-- A file in order passes as it is, and its entries are those of the tree. -/
theorem InOrder.passes_unchanged (order : session.InOrder geometry) :
    ∃ during, Image.Passes ⟨geometry.volume 0, .empty⟩ ⟨session.backing.content, []⟩ during ∧
      ∀ directory children, directory < geometry.inodeCount →
        (session.tree geometry directory).body = .directory children →
          ∀ slot, during.content.child? geometry directory slot = children[slot]?.map Child.inode := by
  obtain ⟨locks, passes⟩ := order.passes ⟨rfl, rfl, rfl⟩ order.occupied_sound
    fun _ isDirectory => (order.bounded isDirectory.live).2
  refine ⟨_, passes, fun directory children inside body slot => ?_⟩
  obtain ⟨chain, represents⟩ := order.represents
  let during : Backing := ⟨session.backing.content.occupied geometry, []⟩
  have ready : (geometry.volume 0).Ready during :=
    ⟨(Content.size_occupied order.rest.long).symm ▸ order.rest.long, order.rest.lockable,
      fun _ member => by cases member⟩
  have shows : Disk.of geometry during.content = session.disk geometry := Content.disk_occupied
  rw [← shows] at represents
  exact @Represents.child?_eq (geometry.volume 0) during _ _ represents ready _ _ body
    (Content.directory_occupied.mpr (order.directory_of_tree inside body).1) slot

end Session

/-! Soundness -/

/-- Where the record of the anchor has been emptied, the metadata is not sound. -/
theorem Content.not_sound_of_emptied {content : Content} {geometry : Geometry} {inode : Inode}
    (fits : NameFits inode.name) (empty : inode.isEmpty = true) :
    ¬ ((content.putRecord geometry InodeNumber.anchor inode).occupied geometry).Sound geometry := by
  rintro ⟨chain, sound⟩
  have nonempty := (Content.live_occupied.mp sound.slots.anchor).nonempty
  rw [Content.inode, Content.slot_putRecord fits] at nonempty
  exact Bool.noConfusion (empty.symm.trans nonempty)

namespace Session

variable {geometry : Geometry} {session : Session}

/-- No directory of a file in order becomes larger when the record of an inode is emptied. -/
theorem InOrder.small_of_emptied (order : session.InOrder geometry) {number directory : Nat}
    {inode : Inode} (inside : number < geometry.inodeCount) (fits : NameFits inode.name)
    (empty : inode.isEmpty = true)
    (isDirectory : (session.backing.content.putRecord geometry number inode).Directory geometry
      directory) :
    ((session.backing.content.putRecord geometry number inode).inode geometry directory).size.toNat <
      Limit.buffer := by
  have live := isDirectory.live
  by_cases same : directory = number
  · have nonempty := live.nonempty
    rw [same, Content.inode, Content.slot_putRecord fits] at nonempty
    exact Bool.noConfusion (empty.symm.trans nonempty)
  · have kept : (session.backing.content.putRecord geometry number inode).inode geometry directory =
        session.backing.content.inode geometry directory := by
      rw [Content.inode, Content.inode, Content.slot_putRecord_of_ne inside fits live.inside same]
    rw [kept]
    refine (order.bounded ⟨live.inside, ?_⟩).2
    rw [← kept]
    exact live.nonempty

section Wrapping

variable (order : session.InOrder geometry) (bounded : geometry.inodeCount < Limit.word32)

include order bounded

theorem InOrder.reports_unchanged : ∃ report after,
    (geometry.volume 0).check .wraps session.backing = (.ok report, after) ∧ report.findings = [] := by
  obtain ⟨report, after, checked, judged⟩ := @Volume.AtRest.check_sound_iff _ _ .wraps order.rest
    (fun _ => bounded) (fun _ isDirectory => (order.bounded isDirectory.live).2) nofun
  exact ⟨report, after, checked, judged.mpr order.occupied_sound⟩

/-- A file in order of which the record of the anchor has been emptied still opens and is reported
on. -/
theorem InOrder.reports_emptied {inode : Inode} (fits : NameFits inode.name)
    (empty : inode.isEmpty = true) :
    let backing : Backing :=
      ⟨session.backing.content.putRecord geometry InodeNumber.anchor inode, []⟩
    Image.ofDevice "image" (geometry.volume 0).device backing = .ok ⟨geometry.volume 0, .empty⟩ ∧
      ∃ report after during, (geometry.volume 0).check .wraps backing = (.ok report, after) ∧
        (geometry.volume 0).directoryLock.acquire .exclusive backing = (.ok (), during) ∧
        ¬ during.content.Sound geometry := by
  intro backing
  have inside : InodeNumber.anchor < geometry.inodeCount :=
    Nat.lt_of_lt_of_le (by decide) geometry.four_le_inodeCount
  have frame := Content.sameFrame_putRecord inside fits order.rest.long
  have rest := order.rest_of_frame frame
  obtain ⟨report, after, checked, -⟩ := @Volume.AtRest.check_sound_iff _ _ .wraps rest
    (fun _ => bounded) (fun _ => order.small_of_emptied inside fits empty) nofun
  exact ⟨order.opens_of_frame frame, report, after, _, checked, rest.acquire .exclusive,
    Content.not_sound_of_emptied fits empty⟩

end Wrapping

end Session

namespace Image

variable {image : Image} {overflow : Check.Overflow} {backing after : Backing} {report : CheckReport}

/-- Whatever the bytes behind an image, a check that reports has no findings exactly when the metadata
is sound as it stands while the check holds the directory lock. -/
theorem check_clean_iff_sound
    (bounded : overflow = .wraps → image.volume.geometry.inodeCount < Limit.word32)
    (checked : image.volume.check overflow backing = (.ok report, after)) :
    ∃ during, image.volume.directoryLock.acquire .exclusive backing = (.ok (), during) ∧
      (report.findings = [] ↔ during.content.Sound image.volume.geometry) := by
  obtain ⟨during, acquired, answered⟩ := Volume.exists_of_withDirectoryLock_ok checked
  exact ⟨during, acquired, Volume.checkUnlocked_sound_iff bounded answered⟩

/-- The image with the nested file, but that the record of the anchor has been emptied. -/
def anchorless : Backing :=
  ⟨Session.nested.backing.content.putRecord Session.ample InodeNumber.anchor ((Node.vacant 0).inode []),
    []⟩

/-- Where counters wrap, the image with the nested file is sound, and that without its anchor has
findings. -/
theorem nested_and_anchorless_judged :
    let image : Image := ⟨Session.ample.volume 0, .empty⟩
    (∃ report after during, ofDevice "image" image.volume.device Session.nested.backing = .ok image ∧
      image.volume.check .wraps Session.nested.backing = (.ok report, after) ∧
      image.volume.directoryLock.acquire .exclusive Session.nested.backing = (.ok (), during) ∧
      during.content.Sound Session.ample) ∧
    ∃ report after during, ofDevice "image" image.volume.device anchorless = .ok image ∧
      image.volume.check .wraps anchorless = (.ok report, after) ∧
      image.volume.directoryLock.acquire .exclusive anchorless = (.ok (), during) ∧
      ¬ during.content.Sound Session.ample ∧ report.findings ≠ [] := by
  intro image
  obtain ⟨owner, stands⟩ := Session.nested_stands
  have order := stands.reachable.inOrder
  have bounded : Session.ample.inodeCount < Limit.word32 := by decide
  constructor
  · obtain ⟨report, after, checked, clean⟩ := order.reports_unchanged bounded
    obtain ⟨during, acquired, sound⟩ :=
      @check_clean_iff_sound image .wraps _ _ _ (fun _ => bounded) checked
    exact ⟨report, after, during, order.ofDevice_apply "image" 0, checked, acquired, sound.mp clean⟩
  · have fits : NameFits ((Node.vacant 0).inode []).name := ⟨by decide, by decide⟩
    obtain ⟨opens, report, after, during, checked, acquired, unsound⟩ :=
      order.reports_emptied bounded fits rfl
    obtain ⟨during', acquired', sound⟩ :=
      @check_clean_iff_sound image .wraps _ _ _ (fun _ => bounded) checked
    cases acquired.symm.trans acquired'
    exact ⟨report, after, during, opens, checked, acquired, unsound,
      fun clean => unsound (sound.mp clean)⟩

/-! Trees -/

/-- A check without findings: every inode but the first two is entered by exactly one entry, and it is
reached from the root unless it lies behind the anchor or behind a cycle of directories. -/
theorem check_clean_branches
    (bounded : overflow = .wraps → image.volume.geometry.inodeCount < Limit.word32)
    (checked : image.volume.check overflow backing = (.ok report, after))
    (clean : report.findings = []) :
    ∃ during, image.volume.directoryLock.acquire .exclusive backing = (.ok (), during) ∧
      image.volume.Branches during := by
  obtain ⟨during, acquired, answered⟩ := Volume.exists_of_withDirectoryLock_ok checked
  obtain ⟨chain, sound⟩ := (Volume.checkUnlocked_sound_iff bounded answered).mp clean
  exact ⟨during, acquired, Volume.branches_of_sound sound (.of_check sound answered)⟩

/-- Two images without findings. The nested file of the one is reached, and the directory of the other
that nothing leads to lies behind a cycle. -/
theorem nested_and_detached_branch :
    (∃ during, Passes ⟨Session.ample.volume 0, .empty⟩ ⟨Session.nested.backing.content, []⟩ during ∧
      (Session.ample.volume 0).Branches during ∧
      during.content.follow Session.ample InodeNumber.root [0, 0] = some 3) ∧
    ∃ during, Passes ⟨Session.smallest.volume 0, .empty⟩ Session.detachedDirectory during ∧
      (Session.smallest.volume 0).Branches during ∧ during.content.Stray Session.smallest 2 := by
  constructor
  · obtain ⟨owner, stands⟩ := Session.nested_stands
    have order := stands.reachable.inOrder
    obtain ⟨during, passes, child⟩ := order.passes_unchanged
    obtain ⟨report, image', after, performed, clean⟩ := passes.checks
    obtain ⟨during', acquired, branches⟩ :=
      @check_clean_branches _ .breaks _ _ _ nofun (check_of_perform performed) clean
    cases passes.acquires.symm.trans acquired
    have root : during.content.child? Session.ample InodeNumber.root 0 = some 2 :=
      child InodeNumber.root [⟨"a", 2⟩] (by decide) (by rw [stands.isTree]; rfl) 0
    have below : during.content.child? Session.ample 2 0 = some 3 :=
      child 2 [⟨"b", 3⟩] (by decide) (by rw [stands.isTree]; rfl) 0
    refine ⟨during, passes, branches, ?_⟩
    simp only [Content.follow, Trail.follow, root, below, Option.bind_some]
  · obtain ⟨during, passes, -, live, detached⟩ := Session.detachedDirectory_passes
    obtain ⟨report, image', after, performed, clean⟩ := passes.checks
    obtain ⟨during', acquired, branches⟩ :=
      @check_clean_branches _ .breaks _ _ _ nofun (check_of_perform performed) clean
    cases passes.acquires.symm.trans acquired
    refine ⟨during, passes, branches, ?_⟩
    by_contra notStray
    obtain ⟨trail, leads⟩ := (branches.reached_iff 2 live).mpr notStray
    exact detached trail leads

end Image

end ImageFs
