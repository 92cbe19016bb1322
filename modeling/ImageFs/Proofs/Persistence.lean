import ImageFs.Proofs.Consistency
import ImageFs.Proofs.StaleHandles

/-!
Making images and opening them again. Main statement: an image is made as a whole or not at all, and
whatever has been done to it, it opens again with the same sizes and gives the same answers.
-/

namespace ImageFs

/-! Making images -/

namespace Host

variable {host after : Host} {name : String} {length : Nat}

/-- A file is made in a free place with a length that the host can express. -/
theorem of_createDevice {path : HostPath} {device : Device}
    (created : host.createDevice name length = (.ok (path, device), after)) :
    host.place name = .ok (path, none) ∧ length < Limit.hostOffset ∧
      after = { host.put path (.file ⟨Content.empty.resize length, []⟩) with
        nextOwner := host.nextOwner + 1 } := by
  cases placed : host.place name with
  | error cause =>
      rw [createDevice, placed] at created
      cases created
  | ok found =>
      obtain ⟨path', node⟩ := found
      cases node with
      | some node =>
          rw [createDevice, placed] at created
          cases created
      | none =>
          obtain ⟨_, _, _, _, _, isFree⟩ := of_place placed
          rw [createDevice_of_place placed isFree] at created
          split at created
          · cases created
          · next short =>
            cases created
            exact ⟨rfl, Nat.not_le.mp short, rfl⟩

/-- A file that could not be made has left nothing behind. -/
theorem createDevice_error {error : FsError}
    (fails : host.createDevice name length = (.error error, after)) : after = host := by
  cases placed : host.place name with
  | error cause =>
      rw [createDevice, placed] at fails
      cases fails
      rfl
  | ok found =>
      obtain ⟨path, node⟩ := found
      cases node with
      | some node =>
          rw [createDevice, placed] at fails
          cases fails
          rfl
      | none =>
          obtain ⟨_, _, _, _, _, isFree⟩ := of_place placed
          rw [createDevice_of_place placed isFree] at fails
          split at fails
          · cases fails
            rfl
          · cases fails

/-- The host with another file in a place. -/
structure Besides (path : HostPath) (before after : Host) : Prop where
  workingDirectory : after.workingDirectory = before.workingDirectory
  elsewhere (other : HostPath) (different : other ≠ path) : after.node? other = before.node? other

theorem Besides.run {α : Type} {path : HostPath} {before : Host} (besides : Besides path before host)
    (update : Update α) : Besides path before (host.run path update).2 := by
  rw [Host.run]
  split
  · refine ⟨besides.workingDirectory, fun other different => ?_⟩
    exact (node?_put_of_ne different _).trans (besides.elsewhere other different)
  · exact besides

theorem Besides.later {path : HostPath} {before : Host} (besides : Besides path before after)
    (isFree : before.node? path = none) : Later before after where
  workingDirectory := besides.workingDirectory
  keeps other isDirectory := by
    rw [besides.elsewhere other ?_, isDirectory]
    rintro rfl
    rw [isDirectory] at isFree
    cases isFree

/-- An image that could not be made has left nothing behind. -/
theorem initImage_error {sizes : ImageSizes} {halt : Halt}
    (fails : host.initImage name sizes = (.error halt, after)) :
    after = host ∧ ∃ error, halt = .failed error := by
  rw [initImage] at fails
  cases sized : Geometry.ofSizes sizes.blockSize sizes.blocks with
  | error error =>
      rw [sized] at fails
      cases fails
      exact ⟨rfl, error, rfl⟩
  | ok geometry =>
      rw [sized] at fails
      dsimp only at fails
      rcases created : host.createDevice name geometry.imageLength with ⟨error | ⟨path, device⟩, made⟩
      · rw [created] at fails
        cases fails
        exact ⟨createDevice_error created, error, rfl⟩
      · obtain ⟨placed, short, -⟩ := of_createDevice created
        obtain ⟨after', _, laid, -⟩ := Session.initImage_inOrder sized placed short
        rw [initImage, sized] at laid
        dsimp only at laid
        rw [created] at laid fails
        rw [laid] at fails
        cases fails

/-- An image is made in a free place, and nothing else of the host changes. -/
theorem of_initImage {sizes : ImageSizes} (laid : host.initImage name sizes = (.ok (), after)) :
    ∃ geometry path, Geometry.ofSizes sizes.blockSize sizes.blocks = .ok geometry ∧
      host.place name = .ok (path, none) ∧ geometry.imageLength < Limit.hostOffset ∧
      Besides path host after := by
  rw [initImage] at laid
  cases sized : Geometry.ofSizes sizes.blockSize sizes.blocks with
  | error error =>
      rw [sized] at laid
      cases laid
  | ok geometry =>
      rw [sized] at laid
      dsimp only at laid
      rcases created : host.createDevice name geometry.imageLength with ⟨error | ⟨path, device⟩, made⟩
      · rw [created] at laid
        cases laid
      · obtain ⟨placed, short, isMade⟩ := of_createDevice created
        refine ⟨geometry, path, rfl, placed, short, ?_⟩
        have besides : Besides path host made := by
          subst isMade
          exact ⟨rfl, fun other different => node?_put_of_ne different _⟩
        have runs := besides.run (do
          let volume ← (liftM (Volume.ofDevice device geometry) : Query Volume)
          volume.format
          device.close)
        rw [created] at laid
        dsimp only at laid
        split at laid
        · next ends =>
          cases laid
          rwa [ends] at runs
        · cases laid

theorem lookup_of_place {path : HostPath} (placed : host.place name = .ok (path, none)) :
    host.lookup name = .error .notFound := by
  obtain ⟨parent, part, located, entered, -, isFree⟩ := of_place placed
  rw [lookup, located]
  change (entryPath parent part >>= fun path => _) = _
  rw [entered]
  dsimp only [bind, Except.bind]
  rw [isFree]
  rfl

end Host

/-- Questions that need no handle. -/
def Image.Operation.Asks : Image.Operation → Prop
  | stat _ => True
  | readDirectory _ => True
  | usage => True
  | check => True
  | _ => False

theorem Tree.contentOf_of_opened {tree : Tree} {slots : Nat} (wellFormed : tree.WellFormed slots)
    {path : String} {mode : AccessMode} {file : OpenFile} (opened : tree.opened path mode = .ok file) :
    ∃ content, tree.contentOf file = some content := by
  obtain ⟨-, _, content, -, -, isFile⟩ := (Stems.of_opened wellFormed opened).of_kept (List.not_mem_nil)
  exact ⟨content, contentOf_eq_some.mpr ⟨congrArg Node.body isFile, congrArg Node.generation isFile⟩⟩

namespace Session

variable {geometry : Geometry} {first session after : Session} {index index' : Nat}
  {mounted mounted' : Host.Mounted}

/-! States that follow each other -/

/-- The states that come of one by opening images, performing operations and closing. -/
inductive Follows (first : Session) : Session → Prop where
  | refl : Follows first first
  | openImage {session : Session} {after : Host} {name : String} {mounted : Host.Mounted}
      (follows : Follows first session) (opened : session.host.openImage name = (.ok mounted, after))
      (same : mounted.path = session.path) :
      Follows first { session with host := after, images := session.images ++ [mounted] }
  | perform {session after : Session} {index : Nat} {operation : Image.Operation}
      {answer : Except Halt Image.Answer} (follows : Follows first session)
      (performed : session.perform index operation = some (answer, after)) : Follows first after
  | closeImage {session : Session} {index : Nat} {mounted : Host.Mounted}
      (follows : Follows first session) (isOpen : session.images[index]? = some mounted) :
      Follows first { session with
        host := (session.host.closeImage mounted).2
        images := session.images.eraseIdx index }

theorem InOrder.host_of_perform (order : session.InOrder geometry) {operation : Image.Operation}
    {answer : Except Halt Image.Answer}
    (performed : session.perform index operation = some (answer, after)) :
    after.path = session.path ∧
      ∃ backing, after.host = session.host.put session.path (.file backing) := by
  obtain ⟨mounted, isOpen⟩ := isSome_of_perform performed
  obtain ⟨isPath, -⟩ := order.mounted mounted (List.mem_of_getElem? isOpen)
  rw [Session.perform, isOpen] at performed
  dsimp only at performed
  rw [Host.perform, isPath, order.isFile] at performed
  cases performed
  exact ⟨rfl, _, rfl⟩

namespace Follows

theorem inOrder (follows : Follows first session) (order : first.InOrder geometry) :
    session.InOrder geometry := by
  induction follows with
  | refl => exact order
  | openImage _ opened same order => exact order.openImage opened same
  | @perform session after index operation answer _ performed order =>
      obtain ⟨mounted, isOpen⟩ := isSome_of_perform performed
      obtain ⟨after', performs, turns, -⟩ := order.perform isOpen operation
      rw [performs] at performed
      cases performed
      exact turns.inOrder
  | closeImage _ isOpen order => exact order.closeImage isOpen

/-- The file stays in its place, and the directories that lead to it stay. -/
theorem later (follows : Follows first session) (order : first.InOrder geometry) {base : Host}
    (isFree : base.node? first.path = none) (later : Host.Later base first.host) :
    session.path = first.path ∧ Host.Later base session.host := by
  induction follows with
  | refl => exact ⟨rfl, later⟩
  | @openImage session after name mounted follows opened same induction =>
      obtain ⟨samePath, later'⟩ := induction
      obtain ⟨-, rfl⟩ := (follows.inOrder order).of_openImage opened same
      have made : Host.Later base { session.host with nextOwner := session.host.nextOwner + 1 } :=
        ⟨later'.workingDirectory, later'.keeps⟩
      exact ⟨samePath, made.put (by rwa [samePath]) _⟩
  | @perform session after index operation answer follows performed induction =>
      obtain ⟨samePath, later'⟩ := induction
      obtain ⟨samePath', backing, isHost⟩ := (follows.inOrder order).host_of_perform performed
      refine ⟨samePath'.trans samePath, ?_⟩
      rw [isHost]
      exact later'.put (by rwa [samePath]) _
  | @closeImage session index mounted follows isOpen induction =>
      obtain ⟨samePath, later'⟩ := induction
      refine ⟨samePath, ?_⟩
      rw [(follows.inOrder order).closeImage_host (List.mem_of_getElem? isOpen)]
      exact later'.put (by rwa [samePath]) _

end Follows

/-! Questions to a file -/

/-- A question through a handle. -/
inductive Probe where
  | read (count : Nat)
  | seek (origin : Origin) (delta : Int)
deriving DecidableEq, Repr

namespace Probe

def operation (handle : Nat) : Probe → Image.Operation
  | read count => .read handle count
  | seek origin delta => .seek handle origin delta

/-- What is found in a file with the content. -/
def answer (file : OpenFile) (content : Bytes) : Probe → Image.Answer
  | read count => .bytes ((content.drop file.offset).take count)
  | seek origin delta => .position (Represents.seekTarget file content origin delta)

/-- Where the handle stands afterwards. -/
def offset (file : OpenFile) (content : Bytes) : Probe → Nat
  | read count => file.offset + ((content.drop file.offset).take count).length
  | seek origin delta => Represents.seekTarget file content origin delta

end Probe

/-- The answers to questions that are asked through a handle one after another. -/
def probe (session : Session) (index handle : Nat) : List Probe → List (Except Halt Image.Answer)
  | [] => []
  | first :: rest =>
      match session.perform index (first.operation handle) with
      | some (answer, after) => answer :: after.probe index handle rest
      | none => []

variable {session' : Session} {handle handle' : Nat} {file : OpenFile} {content : Bytes}

theorem InOrder.probe_step (order : session.InOrder geometry)
    (isOpen : session.images[index]? = some mounted)
    (isFile : mounted.image.files.get? handle = some file)
    (live : (session.tree geometry).contentOf file = some content) (probe : Probe) :
    ∃ after mounted', session.perform index (probe.operation handle) =
        some (.ok (probe.answer file content), after) ∧ after.InOrder geometry ∧
      after.images[index]? = some mounted' ∧
      mounted'.image.files.get? handle = some { file with offset := probe.offset file content } ∧
      after.tree geometry = session.tree geometry := by
  have isFile' := OpenFiles.get_eq_ok.mpr isFile
  have isOutcome : session.outcome geometry mounted (probe.operation handle) =
      (.ok (probe.answer file content),
        mounted.image.files.moved handle file (probe.offset file content),
        session.tree geometry) := by
    cases probe with
    | read count => exact outcome_read isFile' live count
    | seek origin delta => exact outcome_seek isFile' live origin delta
  obtain ⟨after, performs, turns⟩ := order.yields isOpen isOutcome
  refine ⟨after, _, performs, turns.inOrder, turns.isOpen isOpen, ?_, turns.tree⟩
  dsimp only
  rw [OpenFiles.get?_moved isFile', if_pos rfl]

/-- Two handles of one file in two states with the same tree have the same answers. -/
theorem InOrder.probe_eq (order : session.InOrder geometry) (order' : session'.InOrder geometry)
    (isOpen : session.images[index]? = some mounted)
    (isOpen' : session'.images[index']? = some mounted')
    (isFile : mounted.image.files.get? handle = some file)
    (isFile' : mounted'.image.files.get? handle' = some file)
    (same : session'.tree geometry = session.tree geometry)
    (live : (session.tree geometry).contentOf file = some content) (probes : List Probe) :
    session'.probe index' handle' probes = session.probe index handle probes := by
  induction probes generalizing session session' mounted mounted' file with
  | nil => rfl
  | cons probe rest induction =>
      obtain ⟨after, mounted₁, performs, order₁, isOpen₁, isFile₁, isTree⟩ :=
        order.probe_step isOpen isFile live probe
      obtain ⟨after', mounted₁', performs', order₁', isOpen₁', isFile₁', isTree'⟩ :=
        order'.probe_step isOpen' isFile' (same ▸ live) probe
      rw [Session.probe, Session.probe, performs, performs']
      dsimp only
      refine congrArg _ (induction order₁ order₁' isOpen₁ isOpen₁' isFile₁ isFile₁' ?_ ?_)
      · rw [isTree', isTree, same]
      · rw [isTree]
        exact live

/-! Answers before and after -/

/-- What is asked of one image is answered as by another one, which may have no handle left. -/
structure Agrees (session : Session) (index : Nat) (mounted : Host.Mounted) (session' : Session)
    (index' : Nat) : Prop where
  asks (operation : Image.Operation) (asks : operation.Asks) :
    ∃ answer after after', session.perform index operation = some (answer, after) ∧
      session'.perform index' operation = some (answer, after')
  opens (path : String) (mode : AccessMode) :
    ∃ answer after answer' after',
      session.perform index (.openFile path mode) = some (answer, after) ∧
      session'.perform index' (.openFile path mode) = some (answer', after') ∧
      ((∃ error, answer = .error (.failed error) ∧ answer' = .error (.failed error)) ∨
        ∃ handle', answer' = .ok (.handle handle') ∧
          (mounted.image.files.count < Limit.word32 → ∃ handle, answer = .ok (.handle handle)) ∧
          ∀ handle, answer = .ok (.handle handle) → ∀ probes,
            after'.probe index' handle' probes = after.probe index handle probes)

theorem InOrder.agrees_asks (order : session.InOrder geometry) (order' : session'.InOrder geometry)
    (isOpen : session.images[index]? = some mounted)
    (isOpen' : session'.images[index']? = some mounted')
    (same : session'.backing = session.backing) {operation : Image.Operation}
    (asks : operation.Asks) :
    ∃ answer after after', session.perform index operation = some (answer, after) ∧
      session'.perform index' operation = some (answer, after') := by
  obtain ⟨after, performs, -⟩ := order.perform isOpen operation
  obtain ⟨after', performs', -⟩ := order'.perform isOpen' operation
  have sameAnswer : (session'.outcome geometry mounted' operation).1 =
      (session.outcome geometry mounted operation).1 := by
    rw [outcome, outcome, tree_of_backing same, disk, disk, same]
    cases operation with
    | stat path => rfl
    | readDirectory path => rfl
    | usage => rfl
    | check => rfl
    | _ => cases asks
  rw [sameAnswer] at performs'
  exact ⟨_, after, after', performs, performs'⟩

theorem InOrder.agrees_opens (order : session.InOrder geometry) (order' : session'.InOrder geometry)
    (isOpen : session.images[index]? = some mounted)
    (isOpen' : session'.images[index']? = some mounted') (isNew : mounted'.image.files = .empty)
    (same : session'.backing = session.backing) (path : String) (mode : AccessMode) :
    ∃ answer after answer' after',
      session.perform index (.openFile path mode) = some (answer, after) ∧
      session'.perform index' (.openFile path mode) = some (answer', after') ∧
      ((∃ error, answer = .error (.failed error) ∧ answer' = .error (.failed error)) ∨
        ∃ handle', answer' = .ok (.handle handle') ∧
          (mounted.image.files.count < Limit.word32 → ∃ handle, answer = .ok (.handle handle)) ∧
          ∀ handle, answer = .ok (.handle handle) → ∀ probes,
            after'.probe index' handle' probes = after.probe index handle probes) := by
  have sameTree : session'.tree geometry = session.tree geometry := tree_of_backing same
  cases opened : (session.tree geometry).opened path mode with
  | error error =>
      obtain ⟨after, performs, -⟩ := order.openFile_fails isOpen opened
      obtain ⟨after', performs', -⟩ := order'.openFile_fails isOpen' (sameTree ▸ opened)
      exact ⟨_, after, _, after', performs, performs', .inl ⟨error, rfl, rfl⟩⟩
  | ok file =>
      have opens : session.outcome geometry mounted (.openFile path mode) =
          ((mounted.image.files.insert file).1.map .handle, (mounted.image.files.insert file).2,
            session.tree geometry) := by
        rw [outcome, Image.Operation.outcome, opened]
      have opens' : session'.outcome geometry mounted' (.openFile path mode) =
          (.ok (.handle 0), ⟨[some file]⟩, session'.tree geometry) := by
        rw [outcome, Image.Operation.outcome, sameTree, opened, isNew]
        rfl
      obtain ⟨after, performs, turns⟩ := order.yields isOpen opens
      obtain ⟨after', performs', turns'⟩ := order'.yields isOpen' opens'
      refine ⟨_, after, _, after', performs, performs', .inr ⟨0, rfl, fun few => ?_, ?_⟩⟩
      · obtain ⟨handle, inserted⟩ := OpenFiles.insert_ok few file
        exact ⟨handle, by rw [inserted]; rfl⟩
      · intro handle answers probes
        have isHandle : handle = OpenFiles.lowestFree mounted.image.files.slots := by
          change Except.mapError _ (Except.map _ (if _ then _ else _)) = _ at answers
          split at answers
          · cases answers
            rfl
          · cases answers
        obtain ⟨chain, represents⟩ := order.represents
        obtain ⟨content, live⟩ := Tree.contentOf_of_opened represents.wellFormed opened
        have isOpen₁ := turns.isOpen isOpen
        have isOpen₁' := turns'.isOpen isOpen'
        have isFile : (mounted.image.files.insert file).2.get? handle = some file := by
          rw [OpenFiles.get?_insert, if_pos isHandle]
        have sameTree' : after'.tree geometry = after.tree geometry := by
          rw [turns'.tree, turns.tree, sameTree]
        exact turns.inOrder.probe_eq turns'.inOrder isOpen₁ isOpen₁' isFile rfl sameTree'
          (turns.tree ▸ live) probes

/-! Opening again -/

/-- Whatever image is closed, the file of the name opens again and answers like it. -/
def Persists (geometry : Geometry) (name : String) (session : Session) : Prop :=
  ∀ index mounted, session.images[index]? = some mounted →
    mounted.image.volume.geometry = geometry ∧
    ∃ mounted' after, (session.host.closeImage mounted).2.openImage name = (.ok mounted', after) ∧
      mounted'.path = session.path ∧ mounted'.image.volume.geometry = geometry ∧
      let images := session.images.eraseIdx index
      Agrees session index mounted ⟨after, session.path, images ++ [mounted']⟩ images.length

theorem InOrder.persists (order : session.InOrder geometry) {base : Host} {name : String}
    (placed : base.place name = .ok (session.path, none)) (later : Host.Later base session.host) :
    Persists geometry name session := by
  intro index mounted isOpen
  have member := List.mem_of_getElem? isOpen
  obtain ⟨-, -, -, -, -, isFree⟩ := Host.of_place placed
  have closed := order.closeImage isOpen
  have isHost := order.closeImage_host member
  have isFile : (session.host.closeImage mounted).2.file name = .ok (session.path, session.backing) := by
    rw [isHost]
    exact Host.file_of_place placed (later.put isFree _) (Host.node?_put ..)
  have opens := closed.openImage_answers isFile
  refine ⟨(order.mounted mounted member).2.1, _, _, opens, rfl, rfl, ?_⟩
  let mounted' : Host.Mounted :=
    ⟨session.path, geometry.volume (session.host.closeImage mounted).2.nextOwner, .empty⟩
  let images := session.images.eraseIdx index
  have reopened := closed.openImage opens rfl
  have same := (closed.backing_of_openImage opens rfl (images ++ [mounted'])).trans
    (order.backing_of_closeImage member _)
  have isOpen' : (images ++ [mounted'])[images.length]? = some mounted' :=
    List.getElem?_concat_length
  exact ⟨fun operation asks => order.agrees_asks reopened isOpen isOpen' same asks,
    order.agrees_opens reopened isOpen isOpen' rfl same⟩

/-! New images -/

/-- The file of the name opens as an image with nothing in it. -/
def OpensEmpty (geometry : Geometry) (host : Host) (name : String) (path : HostPath) : Prop :=
  ∃ mounted after, host.openImage name = (.ok mounted, after) ∧ mounted.path = path ∧
    mounted.image.volume.geometry = geometry ∧
    let session : Session := ⟨after, path, [mounted]⟩
    (∃ report after, session.perform 0 .check = some (.ok (.report report), after) ∧
      report.findings = []) ∧
    (∃ after, session.perform 0 (.readDirectory "/") = some (.ok (.entries []), after)) ∧
    ∃ usage after, session.perform 0 .usage = some (.ok (.usage usage), after) ∧
      usage.totalBlocks = geometry.blocks ∧ usage.freeBlocks = geometry.blocks - 1

theorem InOrder.opensEmpty {host : Host} {name : String} {path : HostPath} {backing : Backing}
    (order : (Session.mk host path []).InOrder geometry) (isFile : host.file name = .ok (path, backing))
    (isDisk : (Session.mk host path []).disk geometry = .fresh geometry)
    (isTree : (Session.mk host path []).tree geometry = .fresh) :
    OpensEmpty geometry host name path := by
  let mounted : Host.Mounted := ⟨path, geometry.volume host.nextOwner, .empty⟩
  have opens := order.openImage_answers isFile
  have opened := order.openImage opens rfl
  have same := order.backing_of_openImage opens rfl [mounted]
  refine ⟨mounted, _, opens, rfl, rfl, ?_⟩
  generalize Host.put _ path _ = after at opened same ⊢
  have isOpen : (Session.mk after path [mounted]).images[0]? = some mounted := rfl
  have isTree' : (Session.mk after path [mounted]).tree geometry = .fresh :=
    (tree_of_backing same).trans isTree
  have isDisk' : (Session.mk after path [mounted]).disk geometry = .fresh geometry := by
    rw [disk, same]
    exact isDisk
  refine ⟨?_, ?_, ?_⟩
  · obtain ⟨report, final, performs, clean, -⟩ := opened.check_clean isOpen
    exact ⟨report, final, performs, clean⟩
  · have components : Path.components "/" = .ok [] := by decide +kernel
    have resolved : Represents.resolved Tree.fresh "/" = .ok InodeNumber.root := by
      rw [Represents.resolved, components]
      rfl
    have lists : Tree.fresh.list "/" = .ok [] := by
      rw [Tree.list, resolved]
      rfl
    rw [← isTree'] at lists
    obtain ⟨final, performs, -⟩ := opened.readDirectory_yields isOpen lists
    exact ⟨final, performs⟩
  · have isUsage : (Session.mk after path [mounted]).outcome geometry mounted .usage =
        (.ok (.usage (Tree.fresh.usage geometry (.fresh geometry))), .empty, .fresh) := by
      rw [outcome, isDisk', isTree']
      rfl
    obtain ⟨final, performs, -⟩ := opened.yields isOpen isUsage
    exact ⟨_, final, performs, rfl, rfl⟩

end Session

/-- Making an image fails and leaves the host as it was, or lays an empty image down in a place that was
free. Whatever is done to it by however many openings, its file opens with the same sizes once one of
them is closed, and answers as that one would have. -/
theorem Host.initImage_persists (host : Host) (name : String) (sizes : ImageSizes) :
    (∀ halt after, host.initImage name sizes = (.error halt, after) →
      after = host ∧ ∃ error, halt = .failed error) ∧
    ∀ after, host.initImage name sizes = (.ok (), after) →
      host.lookup name = .error .notFound ∧
      ∃ geometry path backing, Geometry.ofSizes sizes.blockSize sizes.blocks = .ok geometry ∧
        host.place name = .ok (path, none) ∧ Besides path host after ∧
        after.file name = .ok (path, backing) ∧ backing.content.size = geometry.imageLength ∧
        Session.OpensEmpty geometry after name path ∧
        ∀ session, Session.Follows ⟨after, path, []⟩ session →
          Session.Persists geometry name session := by
  refine ⟨fun halt after => initImage_error, fun after laid => ?_⟩
  obtain ⟨geometry, path, sized, placed, short, besides⟩ := of_initImage laid
  obtain ⟨-, -, -, -, -, isFree⟩ := of_place placed
  obtain ⟨after', backing, laid', isFile, order, isDisk, isTree⟩ :=
    Session.initImage_inOrder sized placed short
  obtain rfl : after' = after := by
    rw [laid'] at laid
    cases laid
    rfl
  have isBacking : (Session.mk after' path []).backing = backing :=
    Session.backing_eq (node?_of_file isFile)
  refine ⟨lookup_of_place placed, geometry, path, backing, sized, placed, besides, isFile, ?_,
    order.opensEmpty isFile isDisk isTree, fun session follows => ?_⟩
  · rw [← isBacking]
    exact order.size
  · obtain ⟨isPath, later⟩ := follows.later order isFree (besides.later isFree)
    refine (follows.inOrder order).persists ?_ later
    rw [isPath]
    exact placed

/-- Also after a file has been made in the image. -/
theorem Host.small_image_persists :
    let superblock := Superblock.fresh Session.smallest
    ∃ made, (Host.inside .root).initImage "image" ⟨superblock.blockSize, superblock.blocks⟩ =
        (.ok (), made) ∧
      Session.OpensEmpty Session.smallest made "image" ⟨["image"]⟩ ∧
      ∃ session mounted, Session.Follows ⟨made, ⟨["image"]⟩, []⟩ session ∧
        session.images[0]? = some mounted ∧ Session.Persists Session.smallest "image" session := by
  intro superblock
  have placed := Session.place_image
  have sized : Geometry.ofSizes superblock.blockSize superblock.blocks = .ok Session.smallest :=
    Superblock.ofSizes_fresh Session.smallest
  obtain ⟨made, backing, laid, isFile, order, -⟩ :=
    @Session.initImage_inOrder Session.smallest _ _ ⟨_, _⟩ _ sized placed (by decide)
  obtain ⟨-, geometry, path, -, sized', placed', -, -, -, opensEmpty, persists⟩ :=
    (initImage_persists (Host.inside .root) "image" ⟨superblock.blockSize, superblock.blocks⟩).2
      made laid
  cases sized.symm.trans sized'
  cases placed.symm.trans placed'
  have opens := order.openImage_answers isFile
  have opened := order.openImage opens rfl
  obtain ⟨after, performs, turns, -⟩ := opened.perform List.getElem?_concat_length
    (.create "/a" .file)
  have follows : Session.Follows ⟨made, ⟨["image"]⟩, []⟩ after :=
    (Session.Follows.refl.openImage opens rfl).perform performs
  obtain ⟨mounted, isOpen⟩ : ∃ mounted, after.images[0]? = some mounted :=
    ⟨_, by rw [turns.images]; rfl⟩
  exact ⟨made, laid, opensEmpty, after, mounted, follows, isOpen, persists after follows⟩

end ImageFs
