import ImageFs.Proofs.Commands
import ImageFs.Proofs.PathContents
import ImageFs.Proofs.SplitWrites

/-!
Copying files into an image and out of it. Main statement: what has been copied in under a path is
copied out again, the image is in order, and the files of the other paths are copied out as before.
-/

namespace ImageFs

/-! Filling files -/

theorem Bytes.written_nil (bytes : Bytes) : Bytes.written [] 0 bytes = bytes := by
  cases bytes <;> simp [written, overlay, zeros]

namespace Tree

variable {tree : Tree} {file : OpenFile} {content : Bytes}

theorem writeOffset_nil (atStart : file.offset = 0) : writeOffset file [] = 0 := by
  simp [writeOffset, atStart]

/-- An open file can always be cut to nothing. -/
theorem truncate_zero (live : tree.contentOf file = some content) (geometry : Geometry) (free : Nat) :
    tree.truncate geometry free file 0 = (.ok (), tree.setContent file.inode []) := by
  have none : extraBlocks geometry content.length 0 = 0 := by
    simp [extraBlocks, Geometry.blocksFor_zero]
  have isEmpty : content.resized 0 = [] := by
    simp [Bytes.resized, Bytes.zeros]
  simp [truncate, live, none, isEmpty]

theorem setContent_setContent (tree : Tree) (node : Nat) (content content' : Bytes) :
    (tree.setContent node content).setContent node content' = tree.setContent node content' := by
  simp [setContent]

end Tree

namespace CommandLine

open Session (Named)

variable {geometry : Geometry} {host : Host} {image : String} {place : HostPath}
  {mounted : Host.Mounted} {tree : Tree} {path : String} {file : OpenFile} {content : Bytes}

/-! Opening files -/

section OpenFile

variable (named : Named geometry image ⟨host, place, [mounted]⟩ tree) {mode : AccessMode}

include named

/-- The first file that an image opens gets the handle 0. -/
theorem openFile_run (unused : mounted.image.files = .empty) (opened : tree.opened path mode = .ok file)
    (written : List Bytes) :
    ∃ after, (openFile mounted path mode).run ⟨host, written⟩ =
        (.ok (0, { mounted with image.files := ⟨[some file]⟩ }), ⟨after, written⟩) ∧
      Named geometry image ⟨after, place, [{ mounted with image.files := ⟨[some file]⟩ }]⟩ tree := by
  have isOutcome : (Image.Operation.openFile path mode).outcome geometry
      ((Session.mk host place [mounted]).disk geometry) tree mounted.image.files =
        (.ok (.handle 0), ⟨[some file]⟩, tree) := by
    rw [Image.Operation.outcome, opened, unused]
    rfl
  obtain ⟨after, performs, named'⟩ := named.perform isOutcome
  refine ⟨after, ?_, named'⟩
  rw [openFile, Command.bind_ok (perform_run performs _)]
  rfl

theorem openFile_fails {error : FsError} (fails : tree.opened path mode = .error error)
    (written : List Bytes) :
    ∃ after, (openFile mounted path mode).run ⟨host, written⟩ =
      (.error (.told (s!"failed to open {path}" :: error.trace)), ⟨after, written⟩) := by
  have isOutcome : (Image.Operation.openFile path mode).outcome geometry
      ((Session.mk host place [mounted]).disk geometry) tree mounted.image.files =
        (.error error, mounted.image.files, tree) := by
    rw [Image.Operation.outcome, fails]
  obtain ⟨after, performs, -⟩ := named.perform isOutcome
  refine ⟨after, ?_⟩
  rw [openFile, Command.bind_ok (perform_run performs _)]
  rfl

end OpenFile

/-! Files by handle -/

section Handle

variable {handle : Nat} (named : Named geometry image ⟨host, place, [mounted]⟩ tree)
  (isFile : mounted.image.files.get handle = .ok file)

include named isFile

theorem read_performs (live : tree.contentOf file = some content) (count : Nat) :
    let bytes := (content.drop file.offset).take count
    let mounted' : Host.Mounted := { mounted with
      image.files := mounted.image.files.moved handle file (file.offset + bytes.length) }
    ∃ after, host.perform mounted (.read handle count) = (.ok (.bytes bytes), mounted', after) ∧
      Named geometry image ⟨after, place, [mounted']⟩ tree := by
  have isOutcome : (Image.Operation.read handle count).outcome geometry
      ((Session.mk host place [mounted]).disk geometry) tree mounted.image.files =
      (.ok (.bytes ((content.drop file.offset).take count)), mounted.image.files.moved handle file
        (file.offset + ((content.drop file.offset).take count).length), tree) := by
    rw [Image.Operation.outcome, isFile]
    dsimp only
    rw [live]
  exact named.perform isOutcome

theorem closeFile_run (written : List Bytes) :
    ∃ mounted' after, (closeFile mounted handle).run ⟨host, written⟩ =
        (.ok mounted', ⟨after, written⟩) ∧
      Named geometry image ⟨after, place, [mounted']⟩ tree := by
  have isOpen := OpenFiles.get_eq_ok.mp isFile
  have isOutcome : (Image.Operation.closeFile handle).outcome geometry
      ((Session.mk host place [mounted]).disk geometry) tree mounted.image.files =
      (.ok .done, ⟨OpenFiles.dropTrailing (mounted.image.files.slots.set handle none)⟩, tree) := by
    rw [Image.Operation.outcome, OpenFiles.remove, isOpen]
  obtain ⟨after, performs, named'⟩ := named.perform isOutcome
  refine ⟨_, after, ?_, named'⟩
  rw [closeFile, Command.bind_ok (perform_run performs _)]
  rfl

variable (writable : file.mode.canWrite = true)

include writable

/-- An open file is emptied. -/
theorem truncate_performs (live : tree.contentOf file = some content) :
    ∃ after, host.perform mounted (.truncate handle 0) = (.ok .done, mounted, after) ∧
      Named geometry image ⟨after, place, [mounted]⟩ (tree.setContent file.inode []) := by
  have isOutcome : (Image.Operation.truncate handle 0).outcome geometry
      ((Session.mk host place [mounted]).disk geometry) tree mounted.image.files =
      (.ok .done, mounted.image.files, tree.setContent file.inode []) := by
    rw [Image.Operation.outcome, isFile]
    simp [writable, Tree.truncate_zero live, Except.map]
  exact named.perform isOutcome

/-- An empty file is filled from its start and stays open, or the image does not take the bytes. -/
theorem write_performs (live : tree.contentOf file = some []) (atStart : file.offset = 0)
    (bytes : Bytes) :
    ∃ (answer : Except FsError Image.Answer) (mounted' : Host.Mounted) (tree' : Tree) (after : Host),
      host.perform mounted (.write handle bytes) = (answer.mapError .failed, mounted', after) ∧
      Named geometry image ⟨after, place, [mounted']⟩ tree' ∧
      ∀ value, answer = .ok value → tree' = tree.setContent file.inode bytes ∧
        ∃ file', mounted'.image.files.get handle = .ok file' := by
  cases isOutcome : (Image.Operation.write handle bytes).outcome geometry
      ((Session.mk host place [mounted]).disk geometry) tree mounted.image.files with
  | mk answer result =>
      obtain ⟨after, performs, named'⟩ := named.perform isOutcome
      refine ⟨answer, _, _, after, performs, named', fun value done => ?_⟩
      obtain ⟨file', content, accepts⟩ := Tree.exists_accepts ((congrArg Prod.fst isOutcome).trans done)
      obtain rfl : file' = file := Except.ok.inj (accepts.isFile.symm.trans isFile)
      obtain rfl : content = [] := Option.some.inj (accepts.live.symm.trans live)
      rw [accepts.outcome_eq, Tree.writeOffset_nil atStart, Bytes.written_nil] at isOutcome
      cases isOutcome
      have moved := OpenFiles.get?_moved isFile (0 + bytes.length) handle
      exact ⟨rfl, _, OpenFiles.get_eq_ok.mpr (moved.trans (if_pos rfl))⟩

/-- An empty file takes all bytes that there is room for. -/
theorem write_succeeds (live : tree.contentOf file = some []) (atStart : file.offset = 0)
    {bytes : Bytes} (room : ∀ disk chain, Represents geometry disk tree chain →
      geometry.blocksFor bytes.length ≤ disk.counter .freeBlocks) :
    ∃ mounted' after tree' file', host.perform mounted (.write handle bytes) =
        (.ok .done, mounted', after) ∧
      Named geometry image ⟨after, place, [mounted']⟩ tree' ∧
      mounted'.image.files.get handle = .ok file' := by
  obtain ⟨chain, represents⟩ := named.order.represents
  have enough := room _ _ (named.tree ▸ represents)
  have few := (@Represents.counter_lt (geometry.volume 0) _ _ _ represents).1
  have addressable : bytes.length < Limit.word64 :=
    calc bytes.length
        ≤ geometry.blocksFor bytes.length * geometry.payloadSize := geometry.le_blocksFor _
      _ ≤ geometry.blocks * geometry.payloadSize :=
          Nat.mul_le_mul_right _ (Nat.le_trans enough (Nat.le_of_lt few))
      _ < geometry.imageLength := geometry.blocks_mul_lt
      _ < Limit.word64 := geometry.addressable
  have accepts : Tree.Accepts geometry (((Session.mk host place [mounted]).disk geometry).counter
      .freeBlocks) tree mounted.image.files handle bytes file [] := by
    refine ⟨isFile, writable, live, ?_, ?_⟩
    · rw [Tree.writeOffset_nil atStart, Nat.zero_add]
      exact addressable
    · rw [Tree.writeOffset_nil atStart, Bytes.written_nil, Tree.extraBlocks]
      exact Nat.le_trans (Nat.sub_le ..) enough
  obtain ⟨after, writes, named'⟩ := named.perform accepts.outcome_eq
  have moved := OpenFiles.get?_moved isFile (Tree.writeOffset file [] + bytes.length) handle
  exact ⟨_, after, _, _, writes, named', OpenFiles.get_eq_ok.mpr (moved.trans (if_pos rfl))⟩

end Handle

/-! Copying out -/

/-- What is left of a file is written out, if there are more portions than bytes, and the file stays
open. -/
theorem writeOut_run {portions handle : Nat}
    (named : Named geometry image ⟨host, place, [mounted]⟩ tree)
    (isFile : mounted.image.files.get handle = .ok file)
    (live : tree.contentOf file = some content) (enough : content.length - file.offset < portions)
    (written : List Bytes) :
    ∃ mounted' after,
      (writeOut path handle portions mounted).run ⟨host, written⟩ = (.ok mounted', after) ∧
      after.output = written.reverse.flatten ++ content.drop file.offset ∧
      Named geometry image ⟨after.host, place, [mounted']⟩ tree ∧
      ∃ file', mounted'.image.files.get handle = .ok file' := by
  induction portions generalizing host mounted file written with
  | zero => exact absurd enough (Nat.not_lt_zero _)
  | succ portions induction =>
      let bytes := (content.drop file.offset).take portion
      let behind : OpenFile := { file with offset := file.offset + bytes.length }
      let mounted' : Host.Mounted :=
        { mounted with image.files := mounted.image.files.moved handle file behind.offset }
      obtain ⟨after, reads, named'⟩ := read_performs named isFile live portion
      have whole : bytes ++ content.drop behind.offset = content.drop file.offset := by
        rw [← List.drop_drop]
        exact List.prefix_iff_eq_append.mp (List.take_prefix portion _)
      have step : (writeOut path handle (portions + 1) mounted).run ⟨host, written⟩ =
          (if bytes.isEmpty then pure mounted'
            else do
              write bytes
              writeOut path handle portions mounted' : Command Host.Mounted).run ⟨after, written⟩ := by
        rw [writeOut, Command.bind_ok (perform_run reads _)]
        rfl
      have isFile' : mounted'.image.files.get handle = .ok behind := by
        rw [OpenFiles.get_eq_ok, OpenFiles.get?_moved isFile, if_pos rfl]
      rw [step]
      by_cases atEnd : bytes = []
      · refine ⟨mounted', ⟨after, written⟩, by rw [atEnd]; rfl, ?_, named', behind, isFile'⟩
        have nothing : content.drop file.offset = [] := by
          simpa [bytes, portion] using atEnd
        simp [nothing, Console.output]
      · have enough' : content.length - behind.offset < portions := by
          have some : 0 < bytes.length := List.length_pos_of_ne_nil atEnd
          have bound : bytes.length ≤ content.length - file.offset := by
            simp [bytes]
          dsimp only [behind]
          omega
        obtain ⟨final, console, runs, isOutput, named'', stays⟩ :=
          induction named' isFile' live enough' (bytes :: written)
        refine ⟨final, console, ?_, ?_, named'', stays⟩
        · rw [if_neg (by simpa using atEnd)]
          exact runs
        · rw [isOutput, ← whole]
          simp

/-- What is to be seen of copying out what is read under a path. -/
def copiedOut (path : String) : Except FsError Bytes → Outcome
  | .ok content => ⟨0, content, ""⟩
  | .error error =>
      ⟨1, [], "error: " ++ ": ".intercalate (s!"failed to open {path}" :: error.trace) ++ "\n"⟩

/-- What is read under a path is copied out. -/
theorem run_cat (named : Named geometry image ⟨host, place, []⟩ tree)
    (plain : positional [image, path] = [image, path]) :
    (run ["cat", image, path] host).1 = copiedOut path (tree.contentAt path) := by
  have isCopyOut := dispatch_cat plain
  obtain ⟨mounted, opened, opens, unused, isGeometry, named', -⟩ := named.openImage
  have starts := openImage_run opens []
  cases found : tree.opened path .readOnly with
  | error error =>
      obtain ⟨after, fails⟩ := openFile_fails named' found []
      have ends : (copyOut image path).run ⟨host, []⟩ =
          (.error (.told (s!"failed to open {path}" :: error.trace)), ⟨after, []⟩) := by
        rw [copyOut, Command.bind_ok starts, Command.bind_error fails]
      rw [run_of_told (isCopyOut ▸ ends), Tree.contentAt_of_opened_error found]
      rfl
  | ok file =>
      obtain ⟨content, live, isContent, -, atStart, -⟩ := named.wellFormed.contentAt_of_opened found
      obtain ⟨after, finds, named''⟩ := openFile_run named' unused found []
      have enough : content.length - file.offset < mounted.image.volume.geometry.imageLength + 1 := by
        obtain ⟨chain, represents⟩ := named.order.represents
        rw [named.tree] at represents
        have bound := @Represents.length_contentOf _ _ _ (geometry.volume 0) represents _ _ live
        change content.length ≤ geometry.imageLength at bound
        rw [isGeometry]
        omega
      obtain ⟨mounted', ⟨host', written⟩, writes, isOutput, named₃, file', isFile'⟩ :=
        writeOut_run named'' (show OpenFiles.get ⟨[some file]⟩ 0 = .ok file from rfl) live enough []
      obtain ⟨mounted₄, host₄, closes, -⟩ := closeFile_run named₃ isFile' written
      have ends : (copyOut image path).run ⟨host, []⟩ =
          (.ok (), ⟨(host₄.closeImage mounted₄).2, written⟩) := by
        rw [copyOut, Command.bind_ok starts, Command.bind_ok finds]
        exact (Command.bind_ok writes).trans ((Command.bind_ok closes).trans (closeImage_run ..))
      have isWhole : Console.output ⟨host', written⟩ = content := by
        simpa [atStart] using isOutput
      rw [run_of_ok (isCopyOut ▸ ends), isContent, copiedOut, ← isWhole]
      rfl

/-! Checking -/

theorem writeLines_run (lines : List String) (console : Console) :
    ∃ written, (lines.forM writeLine).run console = (.ok (), { console with written }) := by
  induction lines generalizing console with
  | nil => exact ⟨console.written, rfl⟩
  | cons line rest induction =>
      obtain ⟨written, runs⟩ := induction { console with
        written := Text.bytesOf (line ++ "\n") :: console.written }
      exact ⟨written, (Command.bind_ok (writeLine_run line console)).trans runs⟩

theorem check_run (named : Named geometry image ⟨host, place, []⟩ tree) (json : Bool) :
    ∃ after, (check image json).run ⟨host, []⟩ = (.ok (), after) := by
  obtain ⟨mounted, opened, opens, -, -, named', -⟩ := named.openImage
  let disk := (Session.mk opened place [mounted]).disk geometry
  let report := Represents.cleanReport geometry disk tree
  have isOutcome : Image.Operation.check.outcome geometry disk tree mounted.image.files =
      (.ok (.report report), mounted.image.files, tree) := rfl
  obtain ⟨after, performs, -⟩ := named'.perform isOutcome
  obtain ⟨written, prints⟩ := writeLines_run (reportLines report) ⟨after, []⟩
  rw [check, Command.bind_ok (openImage_run opens []), Command.bind_ok (perform_run performs [])]
  cases json with
  | true => exact ⟨⟨(after.closeImage mounted).2, _⟩, rfl⟩
  | false =>
      change ∃ final, ((reportLines report).forM writeLine >>= fun _ => closeImage mounted).run
        ⟨after, []⟩ = (.ok (), final)
      rw [Command.bind_ok prints]
      exact ⟨_, closeImage_run ..⟩

/-- An image in order passes the check of the program. -/
theorem run_check (named : Named geometry image ⟨host, place, []⟩ tree)
    (plain : positional [image] = [image]) : (run ["check", image] host).1.code = 0 := by
  obtain ⟨after, ends⟩ := check_run named ([image].contains "--json")
  rw [← dispatch_check plain] at ends
  rw [run_of_ok ends]

/-! Copying in -/

/-- Making a file, unless the path is taken, changes what is read under no other path. -/
theorem ensureFile_achieves (named : Named geometry image ⟨host, place, [mounted]⟩ tree)
    (unused : mounted.image.files = .empty) (path : String) (written : List Bytes) :
    (ensureFile mounted path).Achieves ⟨host, written⟩ fun mounted' after =>
      mounted'.image.files = .empty ∧ ∃ tree',
        Named geometry image ⟨after.host, place, [mounted']⟩ tree' ∧ ∀ other, Path.components other ≠ Path.components path →
          tree'.contentAt other = tree.contentAt other := by
  cases creates : tree.create geometry
      (((Session.mk host place [mounted]).disk geometry).counter .freeBlocks) path .file with
  | mk answer tree' =>
      have isOutcome : (Image.Operation.create path .file).outcome geometry
          ((Session.mk host place [mounted]).disk geometry) tree mounted.image.files =
            (answer.map fun _ => .done, mounted.image.files, tree') := by
        rw [Image.Operation.outcome, creates]
      obtain ⟨after, performs, named'⟩ := named.perform isOutcome
      unfold ensureFile
      apply Command.Achieves.bind_ok (perform_run performs written)
      cases answer with
      | ok slot =>
          refine .of_ok rfl ⟨unused, tree', named', fun other elsewhere => ?_⟩
          exact named'.wellFormed.contentAt_create creates named.wellFormed elsewhere
      | error error =>
          cases error with
          | alreadyExists =>
              have kept : tree' = tree := by
                rcases Tree.of_create creates with
                  ⟨_, -, -, kept⟩ | ⟨_, full, -⟩ | ⟨_, _, _, _, made, -⟩
                · exact kept
                · cases full
                · cases made
              exact .of_ok rfl ⟨unused, tree', named', fun other _ => by rw [kept]⟩
          | _ => trivial

/-- A file is copied in whole, and nothing else changes, or the program tells why not. -/
theorem copyIn_achieves (named : Named geometry image ⟨host, place, []⟩ tree) (path source : String)
    (written : List Bytes) :
    (copyIn image path source).Achieves ⟨host, written⟩ fun _ after =>
      ∃ place' copied tree', host.file source = .ok (place', copied) ∧
        Named geometry image ⟨after.host, place, []⟩ tree' ∧
        tree'.contentAt path = .ok copied.content.toBytes ∧
        ∀ other, Path.components other ≠ Path.components path →
          tree'.contentAt other = tree.contentAt other := by
  unfold copyIn
  apply Command.Achieves.bind_ok (show (get : Command Console).run ⟨host, written⟩ = _ from rfl)
  cases found : host.file source with
  | error cause => trivial
  | ok copy =>
      obtain ⟨place', copied⟩ := copy
      apply Command.Achieves.bind_ok (show (pure _ : Command Bytes).run ⟨host, written⟩ = _ from rfl)
      obtain ⟨mounted, opened, opens, unused, -, named', -⟩ := named.openImage
      apply Command.Achieves.bind_ok (openImage_run opens written)
      apply Command.Achieves.bind (ensureFile_achieves named' unused path written)
      rintro mounted₁ ⟨host₁, written₁⟩ ⟨unused₁, tree₁, named₁, elsewhere₁⟩
      cases finds : tree₁.opened path .writeOnly with
      | error error =>
          obtain ⟨after, fails⟩ := openFile_fails named₁ finds written₁
          exact .bind_told fails
      | ok file =>
          obtain ⟨content, live, -, leads, atStart, isMode⟩ :=
            named₁.wellFormed.contentAt_of_opened finds
          have writable : file.mode.canWrite = true := by
            rw [isMode]
            rfl
          have isFile : OpenFiles.get ⟨[some file]⟩ 0 = .ok file := rfl
          obtain ⟨host₂, opensFile, named₂⟩ := openFile_run named₁ unused₁ finds written₁
          apply Command.Achieves.bind_ok opensFile
          -- nothing of an older content is left, so that the bytes are all that there is
          obtain ⟨host₃, truncates, named₃⟩ := truncate_performs named₂ isFile writable live
          apply Command.Achieves.bind_ok (perform_run truncates written₁)
          dsimp only
          apply Command.Achieves.bind (Command.Achieves.within _ (.ok Image.Answer.done))
          rintro _ _ ⟨-, rfl⟩
          have emptied := Tree.contentOf_setContent live [] file.offset
          obtain ⟨answer, mounted₄, tree₄, host₄, writes, named₄, fills⟩ :=
            write_performs named₃ isFile writable emptied atStart copied.content.toBytes
          apply Command.Achieves.bind_ok (perform_run writes written₁)
          dsimp only
          apply Command.Achieves.bind (Command.Achieves.within _ answer)
          rintro value _ ⟨done, rfl⟩
          have body := (Tree.contentOf_eq_some.mp live).1
          obtain ⟨isFilled, file', isFile'⟩ := fills value done
          obtain rfl := isFilled.trans (Tree.setContent_setContent ..)
          obtain ⟨mounted₅, host₅, closes, named₅⟩ := closeFile_run named₄ isFile' written₁
          apply Command.Achieves.bind_ok closes
          apply Command.Achieves.of_ok (closeImage_run ..)
          refine ⟨place', copied, _, rfl, named₅.closeImage, ?_, fun other elsewhere => ?_⟩
          · exact Tree.contentAt_setContent_self leads body
          · rw [named₁.wellFormed.contentAt_setContent_of_ne named₄.wellFormed leads body elsewhere,
              elsewhere₁ other elsewhere]

/-- A new file is copied in where there is room for it. -/
theorem copyIn_new (named : Named geometry image ⟨host, place, []⟩ tree) {source : String}
    {place' : HostPath} {copied : Backing} (found : host.file source = .ok (place', copied))
    {slot : Nat} {tree' : Tree}
    (creates : tree.create geometry (((Session.mk host place []).disk geometry).counter .freeBlocks)
      path .file = (.ok slot, tree'))
    (room : ∀ disk chain, Represents geometry disk tree' chain →
      geometry.blocksFor copied.content.toBytes.length ≤ disk.counter .freeBlocks)
    (written : List Bytes) :
    ∃ after, (copyIn image path source).run ⟨host, written⟩ = (.ok (), after) := by
  let bytes := copied.content.toBytes
  obtain ⟨mounted, opened, opens, unused, -, named₀, same⟩ := named.openImage
  have sameDisk : (Session.mk opened place [mounted]).disk geometry =
      (Session.mk host place []).disk geometry := by
    rw [Session.disk, Session.disk, same]
  have isCreated : (Image.Operation.create path .file).outcome geometry
      ((Session.mk opened place [mounted]).disk geometry) tree mounted.image.files =
        (.ok .done, mounted.image.files, tree') := by
    rw [Image.Operation.outcome, sameDisk, creates]
    rfl
  obtain ⟨host₁, created, named₁⟩ := named₀.perform isCreated
  obtain ⟨parent, children, name, -, -, isEntered, leads⟩ := named₁.wellFormed.enters_of_create creates
  have body : (tree' slot).body = .file [] := by
    rw [isEntered, Tree.enter_slot]
    rfl
  let file : OpenFile := ⟨slot, (tree' slot).generation, (tree' slot).name, 0, .writeOnly⟩
  have finds : tree'.opened path .writeOnly = .ok file := by
    simp [Tree.opened, leads, body, file]
  have live : tree'.contentOf file = some [] := Tree.contentOf_eq_some.mpr ⟨body, rfl⟩
  have isFile : OpenFiles.get ⟨[some file]⟩ 0 = .ok file := rfl
  obtain ⟨host₂, opensFile, named₂⟩ := openFile_run named₁ unused finds written
  obtain ⟨host₃, truncates, named₃⟩ := truncate_performs named₂ isFile rfl live
  rw [Tree.setContent_eq_self body] at named₃
  obtain ⟨mounted₄, host₄, tree₄, file₄, writes, named₄, isFile₄⟩ :=
    write_succeeds named₃ isFile rfl live rfl room
  obtain ⟨mounted₅, host₅, closes, -⟩ := closeFile_run named₄ isFile₄ written
  have ensures : (ensureFile mounted path).run ⟨opened, written⟩ = (.ok mounted, ⟨host₁, written⟩) := by
    rw [ensureFile, Command.bind_ok (perform_run created written)]
    rfl
  refine ⟨⟨(host₅.closeImage mounted₅).2, written⟩, ?_⟩
  rw [copyIn, Command.bind_ok (show (get : Command Console).run ⟨host, written⟩ = _ from rfl)]
  dsimp only
  rw [found, Command.bind_ok (show (pure bytes : Command Bytes).run ⟨host, written⟩ = _ from rfl),
    Command.bind_ok (openImage_run opens written), Command.bind_ok ensures,
    Command.bind_ok opensFile]
  dsimp only
  rw [Command.bind_ok (perform_run truncates written), Command.bind_ok (within_run ..),
    Command.bind_ok (perform_run writes written), Command.bind_ok (within_run ..),
    Command.bind_ok closes]
  exact closeImage_run ..

/-! Commands -/

/-- Copying a file into an image ends with code 0 or 1. After it has ended with 0, copying out what is
under the path gives the bytes of the file, whatever was there before, the check passes, and what is
under the other paths is copied out as before. -/
theorem put_then_cat {session : Session} (reachable : session.Reachable geometry)
    (isImage : host.file image = .ok (place, session.backing)) (path source : String) :
    let put := run ["put", image, path, source] host
    (put.1.code = 0 ∨ put.1.code = 1) ∧
    (put.1.code = 0 →
      (∃ place' copied, host.file source = .ok (place', copied) ∧
        (run ["cat", image, path] put.2).1 = ⟨0, copied.content.toBytes, ""⟩) ∧
      (run ["check", image] put.2).1.code = 0 ∧
      ∀ other, Path.components other ≠ Path.components path →
        (run ["cat", image, other] put.2).1 = (run ["cat", image, other] host).1) := by
  intro put
  have named := reachable.inOrder.named isImage
  by_cases plain : positional [image, path, source] = [image, path, source]
  · have arePlain := positional_eq_self.mp plain
    have plainImage : positional [image] = [image] := positional_eq_self.mpr (by simp_all)
    have plainPath : positional [image, path] = [image, path] := positional_eq_self.mpr (by simp_all)
    have achieves := copyIn_achieves named path source []
    rw [← dispatch_put plain] at achieves
    rcases run_of_achieves achieves with
      ⟨done, after, ⟨place', copied, tree', found, named', here, elsewhere⟩, isHost⟩ | told
    · refine ⟨.inl done, fun _ => ?_⟩
      rw [isHost]
      refine ⟨⟨place', copied, found, ?_⟩, run_check named' plainImage, fun other different => ?_⟩
      · rw [run_cat named' plainPath, here, copiedOut]
      · by_cases plainOther : positional [image, other] = [image, other]
        · rw [run_cat named' plainOther, run_cat named plainOther, elsewhere other different]
        · have misused := dispatch_cat_of_ne plainOther
          rw [run_of_expected misused, run_of_expected misused]
    · refine ⟨.inr told, fun done => ?_⟩
      rw [told] at done
      cases done
  · have misused : put.1.code = 1 := by
      dsimp only [put]
      rw [run_of_expected (dispatch_put_of_ne plain)]
    refine ⟨.inr misused, fun done => ?_⟩
    rw [misused] at done
    cases done

/-- A new image and a file with two bytes beside it. -/
theorem exists_image_beside :
    ∃ (host : Host) (session : Session), Session.Reachable Session.roomy session ∧
      host.file "image" = .ok (⟨["image"]⟩, session.backing) ∧
      host.file "source" = .ok (⟨["source"]⟩, ⟨.ofBytes [1, 2], []⟩) ∧
      session.disk Session.roomy = .fresh Session.roomy ∧ session.tree Session.roomy = .fresh := by
  have placed := Session.place_image
  have placedSource : (Host.inside .root).place "source" = .ok (⟨["source"]⟩, none) :=
    Session.place_inside (by decide +kernel) (by decide +kernel) (by decide +kernel)
  have sized := Superblock.ofSizes_fresh Session.roomy
  obtain ⟨after, backing, laid, isFile, order, isDisk, isTree⟩ :=
    @Session.initImage_inOrder Session.roomy _ _ ⟨_, _⟩ _ sized placed (by decide)
  obtain ⟨_, path, -, placed', -, besides⟩ := Host.of_initImage laid
  cases placed.symm.trans placed'
  obtain ⟨_, _, _, _, _, isFree⟩ := Host.of_place placed
  obtain ⟨_, _, _, _, _, isFree'⟩ := Host.of_place placedSource
  let source : Backing := ⟨.ofBytes [1, 2], []⟩
  have later := (besides.later isFree).put isFree' source
  refine ⟨after.put ⟨["source"]⟩ (.file source), ⟨after, ⟨["image"]⟩, []⟩, .init sized placed laid, ?_,
    ?_, isDisk, isTree⟩
  · refine Host.file_of_place placed later ?_
    rw [Host.node?_put_of_ne (by decide)]
    exact order.isFile
  · exact Host.file_of_place placedSource later (Host.node?_put ..)

/-- Two bytes are copied into a new image, and out of it again. -/
theorem two_bytes_put_then_cat :
    ∃ (host : Host) (session : Session), Session.Reachable Session.roomy session ∧
      host.file "image" = .ok (⟨["image"]⟩, session.backing) ∧
      let put := run ["put", "image", "/a", "source"] host
      put.1.code = 0 ∧ (run ["cat", "image", "/a"] put.2).1 = ⟨0, [1, 2], ""⟩ ∧
      (run ["check", "image"] put.2).1.code = 0 ∧
      (run ["cat", "image", "/b"] put.2).1 = (run ["cat", "image", "/b"] host).1 := by
  obtain ⟨host, session, reachable, isImage, isSource, isDisk, isTree⟩ := exists_image_beside
  have same : (Content.ofBytes [1, 2]).toBytes = [1, 2] := by decide +kernel
  have isPut : (run ["put", "image", "/a", "source"] host).1.code = 0 := by
    have named := reachable.inOrder.named isImage
    rw [isTree] at named
    have sameDisk : (Session.mk host ⟨["image"]⟩ []).disk Session.roomy = .fresh Session.roomy := by
      rw [← isDisk, Session.disk, Session.disk, Session.backing_eq (Host.node?_of_file isImage)]
    have split : Path.splitLast "/a" = .ok ([], "a") := by decide +kernel
    have creates : Tree.fresh.create Session.roomy (((Session.mk host ⟨["image"]⟩ []).disk
        Session.roomy).counter .freeBlocks) "/a" .file = (.ok 2, Tree.fresh.enter 0 2 "a" .file) := by
      rw [sameDisk, Tree.create, split]
      rfl
    obtain ⟨after, ends⟩ := copyIn_new named isSource creates (fun disk chain represents => by
      rw [same]
      have confined : (Tree.fresh.enter 0 2 "a" .file).Confined [0, 1] :=
        (Tree.confined_fresh (by decide)).enter (by decide) 2 "a" .file
      exact Nat.le_of_add_le_add_right (Nat.le_trans (by decide) (confined.room represents))) []
    rw [← dispatch_put (by decide +kernel)] at ends
    rw [run_of_ok ends]
  obtain ⟨⟨place', copied, found, here⟩, clean, elsewhere⟩ :=
    (put_then_cat reachable isImage "/a" "source").2 isPut
  cases isSource.symm.trans found
  refine ⟨host, session, reachable, isImage, isPut, ?_, clean, elsewhere "/b" (by decide +kernel)⟩
  rw [here, same]

end CommandLine

end ImageFs
