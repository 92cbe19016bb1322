import ImageFs.Proofs.Handles
import ImageFs.Proofs.HostFiles
import ImageFs.Proofs.Reading

/-!
A file of the host and the images that are open on it, which perform operations one after another.
Main statement: in every state that can be reached from a new image the file is in order, and each
operation does there what it is to do.
-/

namespace ImageFs

/-! Sessions -/

structure Session where
  host : Host
  path : HostPath
  images : List Host.Mounted

/-- A device on an image of the geometry. -/
def Geometry.volume (geometry : Geometry) (owner : Nat) : Volume where
  device := { owner, length := geometry.imageLength }
  geometry
  fits := Nat.le_refl _

namespace Session

variable (session : Session)

def backing : Backing :=
  match session.host.node? session.path with
  | some (.file backing) => backing
  | _ => ⟨.empty, []⟩

def disk (geometry : Geometry) : Disk :=
  .of geometry session.backing.content

def word (offset : Nat) : Nat :=
  (session.backing.content.read offset 8).toNat

/-- The tree that is read off the file. -/
def tree (geometry : Geometry) : Tree :=
  (geometry.volume 0).readTree session.backing

def perform (index : Nat) (operation : Image.Operation) :
    Option (Except Halt Image.Answer × Session) :=
  match session.images[index]? with
  | none => none
  | some mounted =>
      match session.host.perform mounted operation with
      | (answer, mounted, host) =>
          some (answer, { session with host, images := session.images.set index mounted })

/-- The states that can be reached from a new image by opening it any number of times, performing
operations and closing, in any order. -/
inductive Reachable (geometry : Geometry) : Session → Prop where
  | init {host after : Host} {name : String} {sizes : Host.ImageSizes} {path : HostPath}
      (sized : Geometry.ofSizes sizes.blockSize sizes.blocks = .ok geometry)
      (placed : host.place name = .ok (path, none))
      (laid : host.initImage name sizes = (.ok (), after)) :
      Reachable geometry ⟨after, path, []⟩
  | openImage {session : Session} {after : Host} {name : String} {mounted : Host.Mounted}
      (reachable : Reachable geometry session)
      (opened : session.host.openImage name = (.ok mounted, after))
      (same : mounted.path = session.path) :
      Reachable geometry { session with host := after, images := session.images ++ [mounted] }
  | perform {session after : Session} {index : Nat} {operation : Image.Operation}
      {answer : Except Halt Image.Answer} (reachable : Reachable geometry session)
      (performed : session.perform index operation = some (answer, after)) :
      Reachable geometry after
  | closeImage {session : Session} {index : Nat} {mounted : Host.Mounted}
      (reachable : Reachable geometry session) (isOpen : session.images[index]? = some mounted) :
      Reachable geometry { session with
        host := (session.host.closeImage mounted).2
        images := session.images.eraseIdx index }

/-- The file is in order and nobody holds a lock on it, and the images fit it. -/
structure InOrder (geometry : Geometry) : Prop where
  isFile : session.host.node? session.path = some (.file session.backing)
  size : session.backing.content.size = geometry.imageLength
  rest : (geometry.volume 0).AtRest session.backing
  represents : ∃ chain, Represents geometry (session.disk geometry) (session.tree geometry) chain
  mounted : ∀ mounted ∈ session.images, mounted.path = session.path ∧
    mounted.image.volume.geometry = geometry ∧ mounted.image.files.Fit geometry

variable {session}

theorem backing_eq {backing : Backing}
    (isFile : session.host.node? session.path = some (.file backing)) :
    session.backing = backing := by
  rw [Session.backing, isFile]

end Session

variable {geometry : Geometry} {session : Session}

namespace Session

theorem InOrder.of_disk {tree : Tree} {chain : Nat → List Nat} {backing : Backing} {disk : Disk}
    (isFile : session.host.node? session.path = some (.file backing))
    (size : backing.content.size = geometry.imageLength)
    (rest : (geometry.volume 0).AtRest backing) (shows : Disk.of geometry backing.content = disk)
    (represents : Represents geometry disk tree chain)
    (mounted : ∀ mounted ∈ session.images, mounted.path = session.path ∧
      mounted.image.volume.geometry = geometry ∧ mounted.image.files.Fit geometry) :
    session.InOrder geometry ∧ session.disk geometry = disk ∧ session.tree geometry = tree := by
  have same := backing_eq isFile
  have isDisk : session.disk geometry = disk := by rw [Session.disk, same, shows]
  have isTree : session.tree geometry = tree := by
    rw [Session.tree, same]
    exact @Represents.readTree_eq (geometry.volume 0) _ _ _ _ represents rest shows
  refine ⟨⟨same ▸ isFile, same ▸ size, same ▸ rest, ⟨chain, ?_⟩, mounted⟩, isDisk, isTree⟩
  rw [isDisk, isTree]
  exact represents

theorem tree_of_backing {after : Session} (same : after.backing = session.backing) :
    after.tree geometry = session.tree geometry := by
  rw [Session.tree, Session.tree, same]

theorem atRest_of_geometry {volume volume' : Volume} {backing : Backing}
    (rest : volume.AtRest backing) (same : volume'.geometry = volume.geometry) :
    volume'.AtRest backing := by
  obtain ⟨long, lockable, locks, holders⟩ := rest
  exact ⟨same ▸ long, same ▸ lockable, locks, same ▸ holders⟩

theorem close_of_atRest {volume : Volume} {device : Device} {backing : Backing}
    (rest : volume.AtRest backing) : device.close backing = (.ok (), backing) := by
  obtain ⟨content, locks⟩ := backing
  have none : locks = [] := rest.locks
  subst none
  rfl

/-! New images -/

/-- A new image is laid down in a free place, if the host can express its length. -/
theorem initImage_inOrder {host : Host} {name : String} {sizes : Host.ImageSizes} {path : HostPath}
    (sized : Geometry.ofSizes sizes.blockSize sizes.blocks = .ok geometry)
    (placed : host.place name = .ok (path, none)) (short : geometry.imageLength < Limit.hostOffset) :
    ∃ after backing, host.initImage name sizes = (.ok (), after) ∧
      after.file name = .ok (path, backing) ∧ (Session.mk after path []).InOrder geometry ∧
      (Session.mk after path []).disk geometry = .fresh geometry ∧
      (Session.mk after path []).tree geometry = .fresh := by
  let zeros : Backing := ⟨Content.empty.resize geometry.imageLength, []⟩
  let made := ((host.put path (.file zeros)).newDevice geometry.imageLength).2
  let volume := geometry.volume host.nextOwner
  obtain ⟨final, ends, rest, size, shows⟩ := volume.format_answers (Nat.le_of_lt short)
  obtain ⟨_, _, _, _, _, isFree⟩ := Host.of_place placed
  have created : host.createDevice name geometry.imageLength = (.ok (path, volume.device), made) := by
    rw [Host.createDevice_of_place placed isFree, if_neg (Nat.not_le.mpr short)]
    rfl
  have isZeros : made.node? path = some (.file zeros) := Host.node?_put host path _
  have closes : volume.device.close final = (.ok (), final) := close_of_atRest rest
  let format : Update Unit := do
    let volume' ← (liftM (Volume.ofDevice volume.device geometry) : Query Volume)
    volume'.format
    volume.device.close
  have formats : format zeros = (.ok (), final) := by
    have fits : Volume.ofDevice volume.device geometry = .ok volume := dif_pos (Nat.le_refl _)
    dsimp only [format]
    rw [fits]
    exact (Update.bind_ok rfl).trans ((Update.bind_ok ends).trans closes)
  have laid : host.initImage name sizes = (.ok (), made.put path (.file final)) := by
    rw [Host.initImage, sized]
    dsimp only
    rw [created]
    dsimp only
    rw [Host.run_of_file isZeros formats]
  have later : Host.Later host (made.put path (.file final)) := by
    have first := (Host.Later.refl host).put isFree zeros
    have second : Host.Later host made := ⟨first.workingDirectory, first.keeps⟩
    exact second.put isFree final
  refine ⟨_, final, laid, Host.file_of_place placed later (Host.node?_put made path _), ?_⟩
  have none : ∀ mounted ∈ ([] : List Host.Mounted), mounted.path = path ∧
      mounted.image.volume.geometry = geometry ∧ mounted.image.files.Fit geometry := by
    intro mounted member
    cases member
  exact @InOrder.of_disk geometry ⟨made.put path (.file final), path, []⟩ _ _ _ _
    (Host.node?_put made path _) size (atRest_of_geometry rest rfl) shows
    (.fresh (Nat.le_of_lt short)) none

end Session

/-! Opening -/

theorem Image.ofDevice_congr {path : String} {device : Device} {backing backing' : Backing}
    (same : device.read 0 Superblock.length backing' = device.read 0 Superblock.length backing) :
    Image.ofDevice path device backing' = Image.ofDevice path device backing := by
  rw [ofDevice]
  dsimp only
  split
  · rfl
  · rw [Query.bind_apply, Query.bind_apply, same]
    cases device.read 0 Superblock.length backing <;> rfl

/-- An image in order opens with its geometry. -/
theorem Represents.ofDevice_answers {volume : Volume} {disk : Disk} {tree : Tree}
    {chain : Nat → List Nat} (represents : Represents volume.geometry disk tree chain)
    (path : String) :
    Answers volume (Image.ofDevice path volume.device) disk (.ok ⟨volume, .empty⟩) := by
  have minimum := volume.geometry.minimum
  have behind := volume.geometry.data_start_le_imageLength
  have bitmapEnd := volume.geometry.bitmap_le
  have table := volume.geometry.firstInode_le_dataStart
  have start : volume.geometry.bitmapOffset = volume.geometry.blockSize := rfl
  have isLength : Superblock.length = 80 := rfl
  have fits := volume.fits
  have header : Answers volume (volume.device.read 0 Superblock.length) disk
      (.ok (Superblock.current volume.geometry disk).encode) := by
    intro backing ready shows
    subst shows
    rw [volume.read_apply ready (by omega)]
    exact congrArg Except.ok (Superblock.read_current represents.stored.fixed)
  have parsed : Superblock.parse (Superblock.current volume.geometry disk).encode =
      .ok (Superblock.current volume.geometry disk) := Superblock.parse_encode rfl
  have sized : Geometry.ofSizes (Superblock.current volume.geometry disk).blockSize
      (Superblock.current volume.geometry disk).blocks = .ok volume.geometry :=
    Superblock.ofSizes_fresh volume.geometry
  have agrees : (Superblock.current volume.geometry disk).agree volume.geometry = .ok () :=
    represents.agree
  have made : Volume.ofDevice volume.device volume.geometry = .ok volume := dif_pos fits
  refine Answers.ite_neg (by omega) (header.bind ?_)
  rw [parsed]
  refine (Answers.except rfl).bind ?_
  rw [sized]
  refine (Answers.except rfl).bind ?_
  rw [agrees]
  refine (Answers.except rfl).bind ?_
  rw [made]
  exact (Answers.except rfl).bind (.pure _)

namespace Session

theorem InOrder.ofDevice_apply (order : session.InOrder geometry) (path : String) (owner : Nat) :
    Image.ofDevice path (geometry.volume owner).device session.backing =
      .ok ⟨geometry.volume owner, .empty⟩ := by
  obtain ⟨chain, represents⟩ := order.represents
  have ready : (geometry.volume owner).Ready session.backing :=
    (@atRest_of_geometry (geometry.volume 0) (geometry.volume owner) _ order.rest rfl).ready
  exact @Represents.ofDevice_answers (geometry.volume owner) _ _ _ represents path _ ready rfl

theorem InOrder.openImage_answers (order : session.InOrder geometry) {name : String} {backing : Backing}
    (isFile : session.host.file name = .ok (session.path, backing)) :
    session.host.openImage name =
      (.ok ⟨session.path, geometry.volume session.host.nextOwner, .empty⟩,
        { session.host with nextOwner := session.host.nextOwner + 1 }.put session.path
          (.file session.backing)) := by
  have same : session.backing = backing := backing_eq (Host.node?_of_file isFile)
  subst same
  have opens := order.ofDevice_apply name session.host.nextOwner
  rw [Host.openImage_of_file isFile, order.size]
  exact Prod.ext (congrArg (Except.map _) opens) rfl

theorem InOrder.of_backing (order : session.InOrder geometry) {host : Host}
    {images : List Host.Mounted} (isFile : host.node? session.path = some (.file session.backing))
    (mounted : ∀ mounted ∈ images, mounted.path = session.path ∧
      mounted.image.volume.geometry = geometry ∧ mounted.image.files.Fit geometry) :
    (Session.mk host session.path images).InOrder geometry := by
  obtain ⟨chain, represents⟩ := order.represents
  exact (@of_disk geometry ⟨host, session.path, images⟩ _ _ _ _ isFile order.size order.rest rfl
    represents mounted).1

theorem InOrder.of_openImage (order : session.InOrder geometry) {name : String}
    {mounted : Host.Mounted} {after : Host}
    (opened : session.host.openImage name = (.ok mounted, after))
    (same : mounted.path = session.path) :
    mounted = ⟨session.path, geometry.volume session.host.nextOwner, .empty⟩ ∧
      after = { session.host with nextOwner := session.host.nextOwner + 1 }.put session.path
        (.file session.backing) := by
  obtain ⟨backing, isFile, -⟩ := Host.of_openImage opened
  rw [same] at isFile
  rw [order.openImage_answers isFile] at opened
  cases opened
  exact ⟨rfl, rfl⟩

theorem InOrder.openImage (order : session.InOrder geometry) {name : String}
    {mounted : Host.Mounted} {after : Host}
    (opened : session.host.openImage name = (.ok mounted, after))
    (same : mounted.path = session.path) :
    (Session.mk after session.path (session.images ++ [mounted])).InOrder geometry := by
  obtain ⟨rfl, rfl⟩ := order.of_openImage opened same
  refine order.of_backing (Host.node?_put ..) fun mounted member => ?_
  rcases List.mem_append.mp member with member | member
  · exact order.mounted mounted member
  · cases List.mem_singleton.mp member
    exact ⟨rfl, rfl, OpenFiles.fit_empty geometry⟩

theorem InOrder.backing_of_openImage (order : session.InOrder geometry) {name : String} {host : Host}
    {mounted : Host.Mounted} (opened : session.host.openImage name = (.ok mounted, host))
    (same : mounted.path = session.path) (images : List Host.Mounted) :
    (Session.mk host session.path images).backing = session.backing := by
  obtain ⟨-, rfl⟩ := order.of_openImage opened same
  exact backing_eq (Host.node?_put ..)

/-! Closing -/

theorem InOrder.closeImage_host (order : session.InOrder geometry) {mounted : Host.Mounted}
    (isOpen : mounted ∈ session.images) : (session.host.closeImage mounted).2 =
      session.host.put session.path (.file session.backing) := by
  rw [Host.closeImage, Host.closeDevice, (order.mounted mounted isOpen).1,
    Host.run_of_file order.isFile (close_of_atRest order.rest)]

theorem InOrder.closeImage (order : session.InOrder geometry) {index : Nat} {mounted : Host.Mounted}
    (isOpen : session.images[index]? = some mounted) :
    (Session.mk (session.host.closeImage mounted).2 session.path
      (session.images.eraseIdx index)).InOrder geometry := by
  refine order.of_backing ?_ fun mounted member =>
    order.mounted mounted ((List.eraseIdx_sublist _ _).subset member)
  rw [order.closeImage_host (List.mem_of_getElem? isOpen)]
  exact Host.node?_put ..

theorem InOrder.backing_of_closeImage (order : session.InOrder geometry) {mounted : Host.Mounted}
    (isOpen : mounted ∈ session.images) (images : List Host.Mounted) :
    (Session.mk (session.host.closeImage mounted).2 session.path images).backing =
      session.backing := by
  rw [order.closeImage_host isOpen]
  exact backing_eq (Host.node?_put ..)

/-! Performing -/

theorem isSome_of_perform {after : Session} {index : Nat} {operation : Image.Operation}
    {answer : Except Halt Image.Answer}
    (performed : session.perform index operation = some (answer, after)) :
    ∃ mounted, session.images[index]? = some mounted := by
  cases isOpen : session.images[index]? with
  | some mounted => exact ⟨mounted, rfl⟩
  | none =>
      rw [Session.perform, isOpen] at performed
      cases performed

/-- After one of the images has performed an operation, it has the open files, and the file stands for
the tree. -/
structure Turns (geometry : Geometry) (before : Session) (index : Nat) (mounted : Host.Mounted)
    (files : OpenFiles) (tree : Tree) (after : Session) : Prop where
  inOrder : after.InOrder geometry
  images : after.images = before.images.set index { mounted with image.files := files }
  tree : after.tree geometry = tree

theorem Turns.isOpen {before after : Session} {index : Nat} {mounted : Host.Mounted}
    {files : OpenFiles} {tree : Tree} (turns : Turns geometry before index mounted files tree after)
    (isOpen : before.images[index]? = some mounted) :
    after.images[index]? = some { mounted with image.files := files } := by
  rw [turns.images, List.getElem?_set_self (List.getElem?_eq_some_iff.mp isOpen).1]

/-- What an operation of an image is to do to the file as it is. -/
def outcome (session : Session) (geometry : Geometry) (mounted : Host.Mounted)
    (operation : Image.Operation) : Except FsError Image.Answer × OpenFiles × Tree :=
  operation.outcome geometry (session.disk geometry) (session.tree geometry) mounted.image.files

/-- What is done to the file is what the session becomes: the file is the only node of the host that
changes, and the other images keep what they have. -/
theorem InOrder.perform_of_acts (order : session.InOrder geometry) {index : Nat}
    {mounted : Host.Mounted} (isOpen : session.images[index]? = some mounted)
    {operation : Image.Operation} {answer : Except FsError Image.Answer} {files : OpenFiles}
    {disk : Disk} {tree : Tree} {chain : Nat → List Nat}
    (acts : Acts mounted.image.volume (operation.action mounted.image.volume) mounted.image.files
      (session.disk geometry) answer files disk)
    (represents : Represents geometry disk tree chain) (fit : files.Fit geometry) :
    ∃ after, session.perform index operation = some (answer.mapError .failed, after) ∧
      Turns geometry session index mounted files tree after ∧ after.disk geometry = disk ∧
      after.path = session.path ∧
      after.host = session.host.put session.path (.file after.backing) := by
  obtain ⟨isPath, isGeometry, -⟩ := order.mounted mounted (List.mem_of_getElem? isOpen)
  obtain ⟨path, volume, files₀⟩ := mounted
  dsimp only at isPath isGeometry acts
  subst isPath isGeometry
  obtain ⟨final, ends, rest, size, shows⟩ :=
    acts session.backing (atRest_of_geometry order.rest rfl) rfl
  have performs : session.host.perform ⟨session.path, volume, files₀⟩ operation =
      (answer.mapError .failed, ⟨session.path, volume, files⟩,
        session.host.put session.path (.file final)) := by
    rw [Host.perform, order.isFile]
    dsimp only [Image.perform]
    rw [ends]
  have mounted' : ∀ mounted ∈ session.images.set index ⟨session.path, volume, files⟩,
      mounted.path = session.path ∧ mounted.image.volume.geometry = volume.geometry ∧
      mounted.image.files.Fit volume.geometry := by
    intro mounted member
    rcases List.mem_or_eq_of_mem_set member with member | rfl
    · exact order.mounted mounted member
    · exact ⟨rfl, rfl, fit⟩
  let after : Session := ⟨session.host.put session.path (.file final), session.path,
    session.images.set index ⟨session.path, volume, files⟩⟩
  obtain ⟨inOrder, isDisk, isTree⟩ := @of_disk volume.geometry after _ _ _ _
    (Host.node?_put session.host session.path _) (size.trans order.size)
    (atRest_of_geometry rest rfl) shows represents mounted'
  have backing : after.backing = final := backing_eq (Host.node?_put ..)
  refine ⟨after, ?_, ⟨inOrder, rfl, isTree⟩, isDisk, rfl, by rw [backing]⟩
  rw [Session.perform, isOpen]
  dsimp only
  rw [performs]

theorem InOrder.perform (order : session.InOrder geometry) {index : Nat} {mounted : Host.Mounted}
    (isOpen : session.images[index]? = some mounted) (operation : Image.Operation) :
    ∃ after, session.perform index operation =
        some ((session.outcome geometry mounted operation).1.mapError .failed, after) ∧
      Turns geometry session index mounted (session.outcome geometry mounted operation).2.1
        (session.outcome geometry mounted operation).2.2 after ∧
      ∀ error, (session.outcome geometry mounted operation).1 = .error error →
        Leaves (geometry.volume 0) (session.tree geometry) (session.disk geometry)
          (after.disk geometry) operation error := by
  obtain ⟨-, isGeometry, fit⟩ := order.mounted mounted (List.mem_of_getElem? isOpen)
  obtain ⟨chain, represents⟩ := order.represents
  subst isGeometry
  obtain ⟨disk, chain', acts, represents', leaves⟩ := represents.meets fit operation
  have fit' := represents.fit_outcome fit operation represents'
  obtain ⟨after, performs, turns, isDisk, -⟩ := order.perform_of_acts isOpen acts represents' fit'
  refine ⟨after, performs, turns, ?_⟩
  rw [isDisk]
  exact leaves

/-- An image performs the operation with the answer, and then has the open files, and the file stands
for the tree. -/
def Yields (geometry : Geometry) (session : Session) (index : Nat) (mounted : Host.Mounted)
    (operation : Image.Operation) (answer : Except FsError Image.Answer) (files : OpenFiles)
    (tree : Tree) : Prop :=
  ∃ after, session.perform index operation = some (answer.mapError .failed, after) ∧
    Turns geometry session index mounted files tree after

theorem InOrder.yields (order : session.InOrder geometry)
    {index : Nat} {mounted : Host.Mounted}
    (isOpen : session.images[index]? = some mounted) {operation : Image.Operation}
    {answer : Except FsError Image.Answer} {files : OpenFiles} {tree : Tree}
    (isOutcome : session.outcome geometry mounted operation = (answer, files, tree)) :
    Yields geometry session index mounted operation answer files tree := by
  obtain ⟨after, performs, turns, -⟩ := order.perform isOpen operation
  rw [isOutcome] at performs turns
  exact ⟨after, performs, turns⟩

theorem Reachable.inOrder (reachable : Reachable geometry session) : session.InOrder geometry := by
  induction reachable with
  | @init host after name sizes path sized placed laid =>
      by_cases short : geometry.imageLength < Limit.hostOffset
      · obtain ⟨after', _, laid', -, order, -⟩ := initImage_inOrder sized placed short
        rw [laid'] at laid
        cases laid
        exact order
      -- a file of this length cannot be made, so no image was laid down
      · rw [Host.initImage, sized] at laid
        dsimp only at laid
        obtain ⟨_, _, _, _, _, isFree⟩ := Host.of_place placed
        rw [Host.createDevice_of_place placed isFree, if_pos (Nat.not_lt.mp short)] at laid
        cases laid
  | openImage _ opened same order => exact order.openImage opened same
  | @perform session after index operation answer reachable performed order =>
      cases isOpen : session.images[index]? with
      | none =>
          rw [Session.perform, isOpen] at performed
          cases performed
      | some mounted =>
          obtain ⟨after', performs, turns, -⟩ := order.perform isOpen operation
          rw [performs] at performed
          cases performed
          exact turns.inOrder
  | closeImage _ isOpen order => exact order.closeImage isOpen

/-! Rows of operations -/

/-- Performs operations one after another, each by the image of a number. -/
def run (session : Session) : List (Nat × Image.Operation) → Session
  | [] => session
  | (index, operation) :: rest =>
      match session.perform index operation with
      | some (_, after) => after.run rest
      | none => session.run rest

theorem Reachable.run (reachable : Reachable geometry session)
    (operations : List (Nat × Image.Operation)) : Reachable geometry (session.run operations) := by
  induction operations generalizing session with
  | nil => exact reachable
  | cons head rest induction =>
      obtain ⟨index, operation⟩ := head
      rw [Session.run]
      cases performed : session.perform index operation with
      | none => exact induction reachable
      | some result =>
          obtain ⟨answer, after⟩ := result
          exact induction (reachable.perform performed)

/-- Performing opens no image and closes none. -/
theorem length_images_run (session : Session) (operations : List (Nat × Image.Operation)) :
    (session.run operations).images.length = session.images.length := by
  induction operations generalizing session with
  | nil => rfl
  | cons head rest induction =>
      obtain ⟨index, operation⟩ := head
      rw [Session.run]
      cases isOpen : session.images[index]? with
      | none =>
          rw [Session.perform, isOpen]
          exact induction session
      | some mounted =>
          rw [Session.perform, isOpen]
          refine (induction _).trans ?_
          exact List.length_set

/-! A first session -/

/-- A host with nothing else has a place for a file with a plain name. -/
theorem place_inside {name : String}
    (located : (Host.inside .root).locate name = .ok (.entry .root name))
    (plain : ¬ name.endsWith "/") (short : name.utf8ByteSize ≤ HostPath.maxPartLength) :
    (Host.inside .root).place name = .ok (⟨[name]⟩, none) := by
  have entered : Host.entryPath .root name = .ok ⟨[name]⟩ := if_neg (Nat.not_lt.mpr short)
  rw [Host.place, located]
  change (if name.endsWith "/" = true then _ else Host.entryPath .root name >>= _) = _
  rw [if_neg plain, entered]
  rfl

theorem place_image : (Host.inside .root).place "image" = .ok (⟨["image"]⟩, none) :=
  place_inside (by decide +kernel) (by decide +kernel) (by decide +kernel)

/-- A new image in a host with nothing else, opened once. -/
def new (geometry : Geometry) : Session :=
  let superblock := Superblock.fresh geometry
  let host := ((Host.inside .root).initImage "image" ⟨superblock.blockSize, superblock.blocks⟩).2
  let (opened, after) := host.openImage "image"
  ⟨after, ⟨["image"]⟩, opened.toOption.toList⟩

/-- Whatever the geometry, there is such a session as long as the host can express the length. -/
theorem new_reachable (short : geometry.imageLength < Limit.hostOffset) :
    Reachable geometry (new geometry) ∧
      (∃ owner, (new geometry).images = [⟨⟨["image"]⟩, geometry.volume owner, .empty⟩]) ∧
      (new geometry).disk geometry = .fresh geometry ∧ (new geometry).tree geometry = .fresh := by
  have placed := place_image
  have sized : Geometry.ofSizes (Host.ImageSizes.mk (Superblock.fresh geometry).blockSize
      (Superblock.fresh geometry).blocks).blockSize _ = .ok geometry :=
    Superblock.ofSizes_fresh geometry
  obtain ⟨after, backing, laid, isFile, order, isDisk, isTree⟩ :=
    @initImage_inOrder geometry _ _ ⟨_, _⟩ _ sized placed short
  have opened := order.openImage_answers isFile
  have reachable : Reachable geometry ⟨after, ⟨["image"]⟩, []⟩ := .init sized placed laid
  have isNew : new geometry = ⟨{ after with nextOwner := after.nextOwner + 1 }.put ⟨["image"]⟩
      (.file (Session.mk after ⟨["image"]⟩ []).backing), ⟨["image"]⟩,
        [⟨⟨["image"]⟩, geometry.volume after.nextOwner, .empty⟩]⟩ := by
    rw [new]
    dsimp only
    rw [laid]
    dsimp only
    rw [opened]
    rfl
  have same : (new geometry).backing = (Session.mk after ⟨["image"]⟩ []).backing := by
    rw [isNew]
    exact backing_eq (Host.node?_put ..)
  refine ⟨?_, ⟨after.nextOwner, by rw [isNew]⟩, ?_, ?_⟩
  · rw [isNew]
    exact reachable.openImage opened rfl
  · rw [Session.disk, same]
    exact isDisk
  · rw [Session.tree, same]
    exact isTree

/-- The smallest sizes with a block that can be handed out. -/
def smallest : Geometry where
  blockSize := 1024
  blocks := 2
  minimum_le := by decide
  even := by decide
  blockSize_lt := by decide
  blocks_pos := by decide
  addressable := by decide

/-- Sizes with a block for the root and one for a file. -/
def roomy : Geometry :=
  { smallest with blocks := 3, blocks_pos := by decide, addressable := by decide }

theorem smallest_reachable (operations : List (Nat × Image.Operation)) :
    Reachable smallest ((new smallest).run operations) ∧
      ∃ mounted, ((new smallest).run operations).images[0]? = some mounted := by
  obtain ⟨reachable, ⟨owner, images⟩, -⟩ := @new_reachable smallest (by decide)
  refine ⟨reachable.run operations, _, List.getElem?_eq_getElem ?_⟩
  rw [length_images_run, images]
  exact Nat.one_pos

end Session

end ImageFs
