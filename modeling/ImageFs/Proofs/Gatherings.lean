import ImageFs.Proofs.AmongOthers
import ImageFs.Proofs.LockDealings
import ImageFs.Proofs.Session

/-!
Images that are open on a file of the host beside others that have opened it for its locks alone, and
that hold the lock on the directory tree through guards of theirs. Main statement: in every state that
can be reached an operation that ends leaves no lock of its image, and the locks of the others, the count
of holders and what a new image has for the lock as they were.
-/

namespace ImageFs

/-! What a new image has for the directory lock -/

/-- The anchor's record, its block but for the count of holders, and the bit of the block are those of a
new image. -/
structure Content.Anchored (geometry : Geometry) (content : Content) : Prop where
  record : content.area geometry (.record InodeNumber.anchor) =
    (Volume.anchorInode geometry).record
  payload : content.area geometry (.payload geometry.anchorBlock) =
    .zeros (geometry.payloadSize - linkLength)
  link : content.area geometry (.link geometry.anchorBlock) = .zeros linkLength
  bit : Bitmap.get (content.area geometry .bitmap) 0 = true

/-- The two files have the same anchor. -/
structure Content.SameAnchor (geometry : Geometry) (content content' : Content) : Prop where
  record : content'.area geometry (.record InodeNumber.anchor) =
    content.area geometry (.record InodeNumber.anchor)
  payload : content'.area geometry (.payload geometry.anchorBlock) =
    content.area geometry (.payload geometry.anchorBlock)
  link : content'.area geometry (.link geometry.anchorBlock) =
    content.area geometry (.link geometry.anchorBlock)
  bit : Bitmap.get (content'.area geometry .bitmap) 0 = Bitmap.get (content.area geometry .bitmap) 0

theorem Content.Anchored.same {geometry : Geometry} {content content' : Content}
    (anchored : content.Anchored geometry) (anchored' : content'.Anchored geometry) :
    content.SameAnchor geometry content' where
  record := anchored'.record.trans anchored.record.symm
  payload := anchored'.payload.trans anchored.payload.symm
  link := anchored'.link.trans anchored.link.symm
  bit := anchored'.bit.trans anchored.bit.symm

theorem Represents.anchored {geometry : Geometry} {content : Content} {tree : Tree}
    {chain : Nat → List Nat}
    (represents : Represents geometry (Disk.of geometry content) tree chain) :
    content.Anchored geometry := by
  have stored := represents.stored
  have isData := geometry.isData_anchorBlock
  have inside : InodeNumber.anchor < geometry.inodeCount :=
    Nat.lt_of_lt_of_le (by decide) geometry.four_le_inodeCount
  have reserved : Area.reserved geometry geometry.anchorBlock = linkLength := if_pos rfl
  constructor
  · have record := stored.record InodeNumber.anchor inside
    rw [stored.anchor, stored.ledger.anchored] at record
    simp only [Disk.of, if_pos inside] at record
    exact record
  · have stream := stored.stream InodeNumber.anchor
    rw [stored.anchor, stored.ledger.anchored, Disk.stream, List.flatMap_singleton] at stream
    have isStored : Node.anchor.stored = Bytes.zeros linkLength := rfl
    simp only [Disk.of, if_pos isData, reserved] at stream
    rw [isStored, List.length_singleton, Nat.one_mul, Bytes.length_zeros] at stream
    exact List.append_cancel_left stream
  · have link := (stored.ledger.linked InodeNumber.anchor)
    rw [stored.ledger.anchored] at link
    have none : (Disk.of geometry content).link geometry.anchorBlock = 0 := link.1
    simp only [Disk.of, if_pos isData] at none
    have zeros := Bytes.eq_zeros_of_toNat none
    rwa [Disk.length_area] at zeros
  · have member : geometry.anchorBlock ∈ chain InodeNumber.anchor := by
      rw [stored.ledger.anchored]
      exact List.mem_singleton_self _
    have marked := @Ledger.marked_of_mem (geometry.volume 0) _ _ _ stored.ledger _ member
    rwa [show geometry.anchorBlock - (geometry.volume 0).geometry.dataStart = 0 from
      Nat.sub_self _] at marked

/-! The file of an image among others -/

namespace Volume.Amid

variable {volume volume' : Volume} {others : LockTable} {holders : Nat} {backing : Backing}

theorem of_geometry (amid : volume.Amid others holders backing)
    (same : volume'.geometry = volume.geometry) : volume'.Amid others holders backing := by
  obtain ⟨size, locks, counts, represents⟩ := amid
  rw [← same] at size counts represents
  exact ⟨size, locks, counts, represents⟩

/-- Opening an image does not look at the locks. -/
theorem ofDevice_apply (amid : volume.Amid others holders backing) (path : String) :
    Image.ofDevice path volume.device backing = .ok ⟨volume, .empty⟩ := by
  obtain ⟨tree, chain, represents⟩ := amid.represents
  have ready : volume.Ready ⟨backing.content, []⟩ :=
    ⟨amid.long, amid.lockable, fun _ member => by cases member⟩
  have blind : volume.device.read 0 Superblock.length backing =
      volume.device.read 0 Superblock.length ⟨backing.content, []⟩ := Device.read_blind ..
  rw [Image.ofDevice_congr blind]
  exact represents.ofDevice_answers path _ ready rfl

end Volume.Amid

/-! Gatherings -/

/-- The images that are open on a file, the others that have it open for its locks, and the owners of
the guards that these have. -/
structure Gathering where
  session : Session
  stores : List Volume
  guards : List Nat

namespace Gathering

/-- The states that can be reached from a new image by opening its file, as an image or for its locks,
performing operations, dealing with locks and closing, in any order. What waits for the others has not
ended and leads nowhere. A description that has a guard is not closed. -/
inductive Reachable (geometry : Geometry) (laid : Content) : Gathering → Prop where
  | init {host after : Host} {name : String} {sizes : Host.ImageSizes} {path : HostPath}
      (sized : Geometry.ofSizes sizes.blockSize sizes.blocks = .ok geometry)
      (placed : host.place name = .ok (path, none))
      (made : host.initImage name sizes = (.ok (), after))
      (isLaid : (Session.mk after path []).backing.content = laid) :
      Reachable geometry laid ⟨⟨after, path, []⟩, [], []⟩
  | openImage {session : Session} {stores : List Volume} {guards : List Nat} {after : Host}
      {name : String} {mounted : Host.Mounted}
      (reachable : Reachable geometry laid ⟨session, stores, guards⟩)
      (opened : session.host.openImage name = (.ok mounted, after))
      (same : mounted.path = session.path) :
      Reachable geometry laid
        ⟨⟨after, session.path, session.images ++ [mounted]⟩, stores, guards⟩
  | perform {session after : Session} {stores : List Volume} {guards : List Nat} {index : Nat}
      {operation : Image.Operation} {answer : Except Halt Image.Answer}
      (reachable : Reachable geometry laid ⟨session, stores, guards⟩)
      (performed : session.perform index operation = some (answer, after))
      (ends : answer ≠ .error .blocked) : Reachable geometry laid ⟨after, stores, guards⟩
  | closeImage {session : Session} {stores : List Volume} {guards : List Nat} {index : Nat}
      {mounted : Host.Mounted} (reachable : Reachable geometry laid ⟨session, stores, guards⟩)
      (isOpen : session.images[index]? = some mounted) :
      Reachable geometry laid ⟨⟨(session.host.closeImage mounted).2, session.path,
        session.images.eraseIdx index⟩, stores, guards⟩
  | openStore {session : Session} {stores : List Volume} {guards : List Nat} {after : Host}
      {name : String} {device : Device} {store : Volume}
      (reachable : Reachable geometry laid ⟨session, stores, guards⟩)
      (opened : session.host.openDevice name = .ok (session.path, device, after))
      (fits : Volume.ofDevice device geometry = .ok store) :
      Reachable geometry laid ⟨⟨after, session.path, session.images⟩, store :: stores, guards⟩
  | deal {session : Session} {stores : List Volume} {guards guards' : List Nat} {store : Volume}
      {after : Backing} (reachable : Reachable geometry laid ⟨session, stores, guards⟩)
      (isOpen : store ∈ stores) (deals : store.Deals guards session.backing guards' after) :
      Reachable geometry laid ⟨⟨session.host.put session.path (.file after), session.path,
        session.images⟩, stores, guards'⟩
  | closeStore {session : Session} {stores : List Volume} {guards : List Nat} {store : Volume}
      (reachable : Reachable geometry laid ⟨session, stores, guards⟩) (isOpen : store ∈ stores)
      (released : store.device.owner ∉ guards) :
      Reachable geometry laid ⟨⟨session.host.closeDevice session.path store.device, session.path,
        session.images⟩, stores.filter (·.device.owner ≠ store.device.owner), guards⟩

/-- An image of the gathering: none of the others is the owner of its locks. -/
structure Guest (geometry : Geometry) (session : Session) (stores : List Volume)
    (mounted : Host.Mounted) : Prop where
  path : mounted.path = session.path
  sized : mounted.image.volume.geometry = geometry
  owner : mounted.image.volume.device.owner < session.host.nextOwner
  apart : ∀ store ∈ stores, store.device.owner ≠ mounted.image.volume.device.owner
  seated : mounted.image.files.Seated geometry

/-- The file holds an image in order, all locks on it and all guards are those of the others, and as
many holders are counted as there are guards. -/
structure InOrder (geometry : Geometry) (gathering : Gathering) : Prop where
  isFile : gathering.session.host.node? gathering.session.path =
    some (.file gathering.session.backing)
  amid : (geometry.volume 0).Amid gathering.session.backing.locks gathering.guards.length
    gathering.session.backing
  locks : ∀ lock ∈ gathering.session.backing.locks, ∃ store ∈ gathering.stores,
    store.device.owner = lock.owner
  guards : ∀ owner ∈ gathering.guards, ∃ store ∈ gathering.stores, store.device.owner = owner
  images : ∀ mounted ∈ gathering.session.images,
    Guest geometry gathering.session gathering.stores mounted
  stores : ∀ store ∈ gathering.stores, store.geometry = geometry ∧
    store.device.owner < gathering.session.host.nextOwner

variable {geometry : Geometry} {laid : Content} {session : Session} {stores : List Volume}
  {guards : List Nat}

/-- What opens later is not the owner of the locks of an image that is open. -/
theorem Guest.later {mounted : Host.Mounted} (guest : Guest geometry session stores mounted)
    {host : Host} {images : List Host.Mounted} {stores' : List Volume}
    (later : session.host.nextOwner ≤ host.nextOwner)
    (opened : ∀ store ∈ stores', store ∈ stores ∨ session.host.nextOwner ≤ store.device.owner) :
    Guest geometry ⟨host, session.path, images⟩ stores' mounted where
  path := guest.path
  sized := guest.sized
  owner := Nat.lt_of_lt_of_le guest.owner later
  apart store isOpen := by
    rcases opened store isOpen with before | new
    · exact guest.apart store before
    · exact Nat.ne_of_gt (Nat.lt_of_lt_of_le guest.owner new)
  seated := guest.seated

namespace InOrder

theorem of_file {gathering : Gathering} {backing : Backing}
    (isFile : gathering.session.host.node? gathering.session.path = some (.file backing))
    (amid : (geometry.volume 0).Amid backing.locks gathering.guards.length backing)
    (locks : ∀ lock ∈ backing.locks, ∃ store ∈ gathering.stores, store.device.owner = lock.owner)
    (guards : ∀ owner ∈ gathering.guards, ∃ store ∈ gathering.stores, store.device.owner = owner)
    (images : ∀ mounted ∈ gathering.session.images,
      Guest geometry gathering.session gathering.stores mounted)
    (stores : ∀ store ∈ gathering.stores, store.geometry = geometry ∧
      store.device.owner < gathering.session.host.nextOwner) : gathering.InOrder geometry := by
  obtain rfl := Session.backing_eq isFile
  exact ⟨isFile, amid, locks, guards, images, stores⟩

theorem init {host : Host} {path : HostPath} (order : (Session.mk host path []).InOrder geometry) :
    InOrder geometry ⟨⟨host, path, []⟩, [], []⟩ := by
  obtain ⟨chain, represents⟩ := order.represents
  refine of_file order.isFile ⟨order.size, rfl, order.rest.holders, _, chain, represents⟩ ?_
    (fun _ member => by cases member) (fun _ member => by cases member)
    (fun _ member => by cases member)
  intro lock member
  rw [order.rest.locks] at member
  cases member

variable (order : InOrder geometry ⟨session, stores, guards⟩)

include order

theorem foreign {mounted : Host.Mounted} (isOpen : mounted ∈ session.images) :
    session.backing.locks.Foreign mounted.image.volume.device.owner := by
  intro lock member own
  obtain ⟨store, among, same⟩ := order.locks lock member
  exact (order.images mounted isOpen).apart store among (same.trans own)

theorem amid_of_guest {mounted : Host.Mounted} (isOpen : mounted ∈ session.images) :
    mounted.image.volume.Amid session.backing.locks guards.length session.backing :=
  order.amid.of_geometry (order.images mounted isOpen).sized

theorem openImage {name : String} {mounted : Host.Mounted} {after : Host}
    (opened : session.host.openImage name = (.ok mounted, after))
    (same : mounted.path = session.path) :
    InOrder geometry ⟨⟨after, session.path, session.images ++ [mounted]⟩, stores, guards⟩ := by
  obtain ⟨backing, isFile, answered, rfl⟩ := Host.of_openImage opened
  obtain ⟨path, image⟩ := mounted
  obtain rfl : path = session.path := same
  obtain rfl : session.backing = backing := Session.backing_eq (Host.node?_of_file isFile)
  let volume := geometry.volume session.host.nextOwner
  have amid : volume.Amid session.backing.locks guards.length session.backing :=
    order.amid.of_geometry rfl
  have isImage : image = ⟨volume, .empty⟩ := by
    have isDevice : Device.mk session.host.nextOwner session.backing.content.size =
        volume.device := congrArg (Device.mk _) amid.size
    rw [isDevice, amid.ofDevice_apply name] at answered
    exact (Except.ok.inj answered).symm
  subst isImage
  refine of_file (Host.node?_put ..) order.amid order.locks order.guards ?_ ?_
  · intro mounted member
    rcases List.mem_append.mp member with member | member
    · exact (order.images mounted member).later (Nat.le_succ _) fun _ among => .inl among
    · cases List.mem_singleton.mp member
      exact ⟨rfl, rfl, Nat.lt_succ_self _, fun store among => Nat.ne_of_lt (order.stores store among).2,
        OpenFiles.seated_empty geometry⟩
  · intro store among
    obtain ⟨sized, before⟩ := order.stores store among
    exact ⟨sized, Nat.lt_succ_of_lt before⟩

theorem closeImage {index : Nat} {mounted : Host.Mounted}
    (isOpen : session.images[index]? = some mounted) :
    InOrder geometry ⟨⟨(session.host.closeImage mounted).2, session.path,
      session.images.eraseIdx index⟩, stores, guards⟩ := by
  have member := List.mem_of_getElem? isOpen
  have closes : mounted.image.volume.device.close session.backing = (.ok (), session.backing) :=
    congrArg (fun locks => (Except.ok (), Backing.mk session.backing.content locks))
      (order.foreign member).dropOwner
  have closed : (session.host.closeImage mounted).2 =
      session.host.put session.path (.file session.backing) := by
    rw [Host.closeImage, Host.closeDevice, (order.images mounted member).path,
      Host.run_of_file order.isFile closes]
  rw [closed]
  refine of_file (Host.node?_put ..) order.amid order.locks order.guards ?_ order.stores
  intro other kept
  exact (order.images other ((List.eraseIdx_sublist _ _).subset kept)).later (Nat.le_refl _)
    fun _ among => .inl among

theorem openStore {name : String} {after : Host} {device : Device} {store : Volume}
    (opened : session.host.openDevice name = .ok (session.path, device, after))
    (fits : Volume.ofDevice device geometry = .ok store) :
    InOrder geometry ⟨⟨after, session.path, session.images⟩, store :: stores, guards⟩ := by
  obtain ⟨backing, -, rfl, rfl⟩ := Host.of_openDevice opened
  obtain ⟨sized, owner⟩ : store.geometry = geometry ∧ store.device.owner = session.host.nextOwner := by
    rw [Volume.ofDevice] at fits
    split at fits
    · cases fits
      exact ⟨rfl, rfl⟩
    · cases fits
  refine of_file order.isFile order.amid ?_ ?_ ?_ ?_
  · intro lock member
    obtain ⟨other, among, same⟩ := order.locks lock member
    exact ⟨other, List.mem_cons_of_mem _ among, same⟩
  · intro guard member
    obtain ⟨other, among, same⟩ := order.guards guard member
    exact ⟨other, List.mem_cons_of_mem _ among, same⟩
  · intro mounted member
    refine (order.images mounted member).later (Nat.le_succ _) fun other among => ?_
    rcases List.mem_cons.mp among with rfl | before
    · exact .inr (Nat.le_of_eq owner.symm)
    · exact .inl before
  · intro other among
    rcases List.mem_cons.mp among with rfl | before
    · exact ⟨sized, Nat.lt_succ_of_le (Nat.le_of_eq owner)⟩
    · obtain ⟨sized', before⟩ := order.stores other before
      exact ⟨sized', Nat.lt_succ_of_lt before⟩

theorem deal {guards' : List Nat} {store : Volume} {after : Backing} (isOpen : store ∈ stores)
    (deals : store.Deals guards session.backing guards' after) :
    InOrder geometry ⟨⟨session.host.put session.path (.file after), session.path,
      session.images⟩, stores, guards'⟩ := by
  obtain ⟨sized, -⟩ := order.stores store isOpen
  have amid : store.Amid session.backing.locks guards.length session.backing :=
    order.amid.of_geometry sized
  have regards := deals.regards amid.lockable amid.long amid.holders
  have amid' : store.Amid after.locks guards'.length after := by
    refine ⟨regards.size.trans amid.size, rfl, regards.holders, ?_⟩
    rw [regards.disk]
    exact amid.represents
  refine of_file (Host.node?_put ..) (amid'.of_geometry sized.symm) ?_ ?_ ?_ order.stores
  · intro lock member
    by_cases own : lock.owner = store.device.owner
    · exact ⟨store, isOpen, own.symm⟩
    · have kept : lock ∈ after.locks.dropOwner store.device.owner :=
        List.mem_filter.mpr ⟨member, decide_eq_true own⟩
      rw [regards.locks] at kept
      exact order.locks lock (LockTable.mem_of_mem_dropOwner kept)
  · intro guard member
    rcases deals.holder member with rfl | before
    · exact ⟨store, isOpen, rfl⟩
    · exact order.guards guard before
  · intro mounted member
    exact (order.images mounted member).later (Nat.le_refl _) fun _ among => .inl among

theorem closeStore {store : Volume} (released : store.device.owner ∉ guards) :
    InOrder geometry ⟨⟨session.host.closeDevice session.path store.device, session.path,
      session.images⟩, stores.filter (·.device.owner ≠ store.device.owner), guards⟩ := by
  let after : Backing :=
    ⟨session.backing.content, session.backing.locks.dropOwner store.device.owner⟩
  have closes : store.device.close session.backing = (.ok (), after) := rfl
  have closed : session.host.closeDevice session.path store.device =
      session.host.put session.path (.file after) := by
    rw [Host.closeDevice, Host.run_of_file order.isFile closes]
  have stays {other : Volume} (among : other ∈ stores)
      (apart : other.device.owner ≠ store.device.owner) :
      other ∈ stores.filter (·.device.owner ≠ store.device.owner) :=
    List.mem_filter.mpr ⟨among, decide_eq_true apart⟩
  rw [closed]
  refine of_file (Host.node?_put ..)
    ⟨order.amid.size, rfl, order.amid.holders, order.amid.represents⟩ ?_ ?_ ?_ ?_
  · intro lock member
    obtain ⟨other, among, same⟩ := order.locks lock (LockTable.mem_of_mem_dropOwner member)
    have apart := LockTable.foreign_dropOwner _ _ lock member
    exact ⟨other, stays among (same.trans_ne apart), same⟩
  · intro guard member
    obtain ⟨other, among, same⟩ := order.guards guard member
    refine ⟨other, stays among ?_, same⟩
    rintro own
    exact released ((own.symm.trans same) ▸ member)
  · intro mounted member
    exact (order.images mounted member).later (Nat.le_refl _) fun _ among =>
      .inl (List.mem_of_mem_filter among)
  · intro other among
    exact order.stores other (List.mem_of_mem_filter among)

/-- Performing acts on the file and on the files that the image has open. -/
theorem perform_apply {index : Nat} {operation : Image.Operation} {mounted : Host.Mounted}
    (isOpen : session.images[index]? = some mounted) {answer : Except Halt Image.Answer}
    {files : OpenFiles} {backing : Backing}
    (acts : operation.action mounted.image.volume mounted.image.files session.backing =
      (answer, files, backing)) :
    session.perform index operation = some (answer, ⟨session.host.put session.path (.file backing),
      session.path, session.images.set index ⟨mounted.path, mounted.image.volume, files⟩⟩) := by
  have isPath := (order.images mounted (List.mem_of_getElem? isOpen)).path
  have isFile : session.host.node? mounted.path = some (.file session.backing) := by
    rw [isPath]
    exact order.isFile
  rw [Session.perform, isOpen]
  dsimp only
  rw [Host.perform, isFile]
  dsimp only [Image.perform]
  rw [acts, isPath]

/-- An operation that ends leaves the file in order and the locks on it as they were. -/
theorem perform {after : Session} {index : Nat} {operation : Image.Operation}
    {answer : Except Halt Image.Answer} {mounted : Host.Mounted}
    (isOpen : session.images[index]? = some mounted)
    (performed : session.perform index operation = some (answer, after))
    (ends : answer ≠ .error .blocked) :
    InOrder geometry ⟨after, stores, guards⟩ ∧ after.backing.locks = session.backing.locks := by
  have member := List.mem_of_getElem? isOpen
  have guest := order.images mounted member
  rcases acts : operation.action mounted.image.volume mounted.image.files session.backing with
    ⟨ended, files, backing⟩
  cases (order.perform_apply isOpen acts).symm.trans performed
  have seated : mounted.image.files.Seated mounted.image.volume.geometry := by
    rw [guest.sized]
    exact guest.seated
  have restores := operation.restores (order.foreign member) mounted.image.files session.backing seated
    (order.amid_of_guest member)
  rw [acts] at restores
  obtain ⟨seated', amid, -⟩ := restores.resolve_left ends
  have isFile := Host.node?_put session.host session.path (.file backing)
  have locks : backing.locks = session.backing.locks := amid.locks
  rw [guest.sized] at seated'
  rw [← locks] at amid
  refine ⟨of_file isFile (amid.of_geometry guest.sized.symm) ?_ order.guards ?_ order.stores, ?_⟩
  · rw [locks]
    exact order.locks
  · intro other kept
    rcases List.mem_or_eq_of_mem_set kept with before | rfl
    · exact (order.images other before).later (Nat.le_refl _) fun _ among => .inl among
    · exact ⟨guest.path, guest.sized, guest.owner, guest.apart, seated'⟩
  · rw [Session.backing_eq isFile, locks]

end InOrder

namespace Reachable

variable {gathering : Gathering}

theorem inOrder (reachable : Reachable geometry laid gathering) : gathering.InOrder geometry := by
  induction reachable with
  | init sized placed made => exact .init (Session.Reachable.init sized placed made).inOrder
  | openImage _ opened same order => exact order.openImage opened same
  | perform _ performed ends order =>
      obtain ⟨mounted, isOpen⟩ := Session.isSome_of_perform performed
      exact (order.perform isOpen performed ends).1
  | closeImage _ isOpen order => exact order.closeImage isOpen
  | openStore _ opened fits order => exact order.openStore opened fits
  | deal _ isOpen deals order => exact order.deal isOpen deals
  | closeStore _ _ released order => exact order.closeStore released

/-- The file as it was laid down has the anchor of a new image. -/
theorem laid_anchored (reachable : Reachable geometry laid gathering) : laid.Anchored geometry := by
  induction reachable with
  | init sized placed made isLaid =>
      obtain ⟨chain, represents⟩ := (Session.Reachable.init sized placed made).inOrder.represents
      rw [← isLaid]
      exact represents.anchored
  | _ => assumption

end Reachable

/-! A shared guard -/

/-- Beside guards that are shared one can ask for the metadata of a file. -/
theorem InOrder.stat_ends (order : InOrder geometry ⟨session, stores, guards⟩) {index : Nat}
    {mounted : Host.Mounted} (isOpen : session.images[index]? = some mounted)
    (bound : guards.length + 1 < Limit.word64)
    (shared : ∀ lock ∈ session.backing.locks, ∃ store ∈ stores,
      lock = DirectoryLock.held store store.directoryLock.anchor .shared) (path : String) :
    ∃ answer after, session.perform index (.stat path) = some (answer, after) ∧
      answer ≠ .error .blocked := by
  have member := List.mem_of_getElem? isOpen
  have amid := order.amid_of_guest member
  have free : mounted.image.volume.directoryLock.FreeFor .shared session.backing.locks := by
    refine DirectoryLock.freeFor_shared amid.lockable (order.foreign member) fun lock isLock => ?_
    obtain ⟨store, among, rfl⟩ := shared lock isLock
    have sized : store.geometry = mounted.image.volume.geometry :=
      (order.stores store among).1.trans (order.images mounted member).sized.symm
    refine ⟨rfl, ?_⟩
    rw [DirectoryLock.held, Volume.directoryLock, sized]
    rfl
  have ends := amid.ask_ends bound free (mounted.image.volume.statPath_blind path)
    fun _ _ _ represents => ⟨_, represents.statPath_answers path⟩
  change (mounted.image.volume.stat path session.backing).1 ≠ _ at ends
  rcases acts : (Image.Operation.stat path).action mounted.image.volume mounted.image.files
    session.backing with ⟨answer, files, backing⟩
  refine ⟨answer, _, order.perform_apply isOpen acts, ?_⟩
  rw [Image.Operation.action, FileAction.bind_apply, FileAction.lift_apply] at acts
  rcases ran : mounted.image.volume.stat path session.backing with ⟨halt | stat, final⟩ <;>
    rw [ran] at acts ends <;> cases acts
  · exact fun blocked => ends (congrArg Except.error (Except.error.inj blocked))
  · exact fun impossible => by cases impossible

/-- Whatever the geometry, an image can be open beside a shared guard, as long as the host can express
the length. -/
theorem guarded_reachable (short : geometry.imageLength < Limit.hostOffset) :
    ∃ laid session mounted store, Reachable geometry laid ⟨session, [store], [store.device.owner]⟩ ∧
      session.images = [mounted] ∧ session.backing.locks =
        [DirectoryLock.held store store.directoryLock.anchor .shared] := by
  have placed := Session.place_image
  have sized : Geometry.ofSizes (Host.ImageSizes.mk (Superblock.fresh geometry).blockSize
      (Superblock.fresh geometry).blocks).blockSize _ = .ok geometry :=
    Superblock.ofSizes_fresh geometry
  obtain ⟨after, backing, made, isFile, order, -⟩ :=
    @Session.initImage_inOrder geometry _ _ ⟨_, _⟩ _ sized placed short
  let path : HostPath := ⟨["image"]⟩
  let store := geometry.volume after.nextOwner
  let host : Host := { after with nextOwner := after.nextOwner + 1 }
  -- the store is opened first, so that the name still leads to the file as it was laid down
  have opensStore : after.openDevice "image" = .ok (path, store.device, host) := by
    have same : (Session.mk after path []).backing = backing :=
      Session.backing_eq (Host.node?_of_file isFile)
    rw [Host.openDevice, isFile]
    dsimp only
    rw [← same, order.size]
    rfl
  have order' : (Session.mk host path []).InOrder geometry :=
    order.of_backing order.isFile fun _ member => by cases member
  have opensImage := order'.openImage_answers isFile
  have order'' := order'.openImage opensImage rfl
  have rest : store.AtRest _ := Session.atRest_of_geometry order''.rest rfl
  obtain ⟨content, acquired, -⟩ := DirectoryLock.acquire_of_atRest rest rfl .shared
  have reachable := ((Reachable.init sized placed made rfl).openStore opensStore
    (dif_pos (Nat.le_refl _))).openImage opensImage rfl
  refine ⟨_, _, _, store, reachable.deal (List.mem_singleton_self _)
    (.acquire store.directoryLock_of_volume acquired), rfl, ?_⟩
  rw [Session.backing_eq (Host.node?_put ..)]

/-! What an operation leaves alone -/

theorem InOrder.anchored {gathering : Gathering} (order : gathering.InOrder geometry) :
    gathering.session.backing.content.Anchored geometry := by
  obtain ⟨_, _, represents⟩ := order.amid.represents
  exact represents.anchored

/-- What an operation of an image leaves as it was: no lock of the image is left, the locks of the
others and the count of holders are the same, which is none where nobody has a guard, and the anchor is
that of the file as it was laid down. -/
structure Undisturbed (geometry : Geometry) (laid : Content) (before : Gathering) (owner : Nat)
    (after : Session) : Prop where
  released : ∀ lock ∈ after.backing.locks, lock.owner ≠ owner
  locks : after.backing.locks = before.session.backing.locks
  holders : after.backing.content.holders geometry =
    before.session.backing.content.holders geometry
  guards : after.backing.content.holders geometry = before.guards.length
  unheld : (∀ store ∈ before.stores, store.device.owner ∉ before.guards) →
    after.backing.content.holders geometry = 0
  anchor : laid.SameAnchor geometry after.backing.content

/-- Whatever the gathering, an operation that ends, well or in an error, leaves it undisturbed. -/
theorem Reachable.undisturbed {gathering : Gathering}
    (reachable : Reachable geometry laid gathering) {index : Nat} {mounted : Host.Mounted}
    {operation : Image.Operation} {answer : Except Halt Image.Answer} {after : Session}
    (isOpen : gathering.session.images[index]? = some mounted)
    (performed : gathering.session.perform index operation = some (answer, after))
    (ends : answer ≠ .error .blocked) :
    Undisturbed geometry laid gathering mounted.image.volume.device.owner after := by
  have order := reachable.inOrder
  obtain ⟨order', locks⟩ := order.perform isOpen performed ends
  have holders : after.backing.content.holders geometry = gathering.guards.length :=
    order'.amid.holders
  refine ⟨?_, locks, holders.trans order.amid.holders.symm, holders, fun unheld => ?_, ?_⟩
  · rw [locks]
    exact order.foreign (List.mem_of_getElem? isOpen)
  · rw [holders, List.length_eq_zero_iff, List.eq_nil_iff_forall_not_mem]
    intro guard member
    obtain ⟨store, among, same⟩ := order.guards guard member
    exact unheld store among (same ▸ member)
  · exact reachable.laid_anchored.same order'.anchored

theorem stat_undisturbed : ∃ laid session stores guards mounted answer after,
    Reachable Session.smallest laid ⟨session, stores, guards⟩ ∧ guards ≠ [] ∧
    session.images[0]? = some mounted ∧
    session.perform 0 (.stat "/") = some (answer, after) ∧ answer ≠ .error .blocked ∧
    Undisturbed Session.smallest laid ⟨session, stores, guards⟩ mounted.image.volume.device.owner
      after := by
  obtain ⟨laid, session, mounted, store, reachable, images, locks⟩ :=
    @guarded_reachable Session.smallest (by decide)
  have isOpen : session.images[0]? = some mounted := by
    rw [images]
    rfl
  have shared : ∀ lock ∈ session.backing.locks, ∃ store' ∈ [store],
      lock = DirectoryLock.held store' store'.directoryLock.anchor .shared := by
    intro lock member
    rw [locks] at member
    exact ⟨store, List.mem_singleton_self _, List.mem_singleton.mp member⟩
  obtain ⟨answer, after, performed, ends⟩ :=
    reachable.inOrder.stat_ends isOpen (show 1 + 1 < Limit.word64 by decide) shared "/"
  exact ⟨laid, session, _, _, mounted, answer, after, reachable, List.cons_ne_nil _ _, isOpen,
    performed, ends, reachable.undisturbed isOpen performed ends⟩

end Gathering

end ImageFs
