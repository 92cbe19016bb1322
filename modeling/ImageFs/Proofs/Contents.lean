import ImageFs.Proofs.Represents
import ImageFs.Proofs.Storing

/-!
Changing the content of a file on the disk. Main statements: writing overlays the content and
truncating resizes it, both fail without a trace when blocks are missing, and the bytes of a chain
behind the content stay zero.
-/

namespace ImageFs

open Function (update)

/-! Contents -/

namespace Bytes

/-- Overlaid at an offset, after zeros up to the offset. -/
def written (content : Bytes) (offset : Nat) (patch : Bytes) : Bytes :=
  if patch.isEmpty then content
  else (content ++ zeros (offset - content.length)).overlay offset patch

/-- Cut to a length, or extended to it by zeros. -/
def resized (content : Bytes) (length : Nat) : Bytes :=
  content.take length ++ zeros (length - content.length)

@[simp] theorem length_resized (content : Bytes) (length : Nat) :
    (content.resized length).length = length := by
  rw [resized, List.length_append, List.length_take, length_zeros]
  omega

theorem resized_length (content : Bytes) : content.resized content.length = content := by
  simp [resized, zeros]

theorem written_of_ne_nil {patch : Bytes} (some : patch ≠ []) (content : Bytes) (offset : Nat) :
    content.written offset patch =
      (content ++ zeros (offset - content.length)).overlay offset patch := by
  rw [written, if_neg (by simpa using some)]

theorem length_written {content : Bytes} {offset : Nat} {patch : Bytes} (some : patch ≠ []) :
    (content.written offset patch).length = max content.length (offset + patch.length) := by
  rw [written_of_ne_nil some, overlay]
  simp only [List.length_append, List.length_take, List.length_drop, length_zeros]
  omega

theorem overlay_append_zeros {content : Bytes} {padding offset : Nat} {patch : Bytes}
    (some : patch ≠ []) (fits : offset + patch.length ≤ content.length + padding) :
    (content ++ zeros padding).overlay offset patch = content.written offset patch ++
      zeros (content.length + padding - max content.length (offset + patch.length)) := by
  apply List.ext_getElem?
  intro position
  rw [getElem?_overlay _ (by rw [List.length_append, length_zeros]; omega), List.getElem?_append,
    List.getElem?_append, length_written some, written_of_ne_nil some,
    getElem?_overlay _ (by rw [List.length_append, length_zeros]; omega), List.getElem?_append]
  simp only [getElem?_zeros]
  by_cases covered : offset ≤ position ∧ position < offset + patch.length
  · rw [if_pos covered, if_pos covered, if_pos (by omega)]
  · rw [if_neg covered, if_neg covered]
    by_cases inContent : position < content.length
    · rw [if_pos inContent, if_pos inContent, if_pos (by omega)]
    · rw [if_neg inContent, if_neg inContent]
      split <;> split <;> first | rfl | (split <;> first | rfl | omega)

theorem overlay_rest {bytes : Bytes} {offset : Nat} {patch : Bytes}
    (whole : offset + patch.length = bytes.length) :
    bytes.overlay offset patch = bytes.take offset ++ patch := by
  rw [overlay, List.drop_eq_nil_of_le (Nat.le_of_eq whole.symm), List.append_nil]

theorem resized_of_le {content : Bytes} {length : Nat} (shorter : length ≤ content.length) :
    content.resized length = content.take length := by
  rw [resized, Nat.sub_eq_zero_of_le shorter]
  exact List.append_nil _

theorem resized_of_ge {content : Bytes} {length : Nat} (longer : content.length ≤ length) :
    content.resized length = content ++ zeros (length - content.length) := by
  rw [resized, List.take_of_length_le longer]

end Bytes

/-! One file on the disk -/

variable {volume : Volume} {before after : Disk} {tree : Tree} {chain : Nat → List Nat} {node : Nat}
  {content : Bytes}

theorem Geometry.blocksFor_mono (geometry : Geometry) {first second : Nat} (le : first ≤ second) :
    geometry.blocksFor first ≤ geometry.blocksFor second :=
  ceilDiv_mono _ le

theorem Geometry.blocksFor_max (geometry : Geometry) (first second : Nat) :
    geometry.blocksFor (max first second) =
      max (geometry.blocksFor first) (geometry.blocksFor second) := by
  rcases Nat.le_total first second with le | le
  · rw [Nat.max_eq_right le, Nat.max_eq_right (geometry.blocksFor_mono le)]
  · rw [Nat.max_eq_left le, Nat.max_eq_left (geometry.blocksFor_mono le)]

/-- Growing a chain and writing into it overlays the bytes of the node. -/
theorem Stored.grown_leads (stored : Stored volume.geometry before tree chain)
    (notAnchor : node ≠ InodeNumber.anchor) {offset : Nat} {bytes : Bytes} (some : bytes ≠ [])
    (enough : volume.geometry.blocksFor ((tree node).stored.written offset bytes).length -
      volume.geometry.blocksFor (tree node).stored.length ≤ before.counter .freeBlocks) :
    let bits := before.nextBits volume.geometry
      (volume.geometry.blocksFor (offset + bytes.length) - (chain node).length)
    let blocks := chain node ++ bits.map volume.geometry.blockOfBit
    let grown := before.extend volume.geometry (chain node) bits
    let after := before.refill volume.geometry (chain node) bits offset bytes
    Leads volume (volume.growChain (chain node) (offset + bytes.length)) before (.ok blocks) grown ∧
      Leads volume (volume.writeChain blocks offset bytes) grown (.ok ()) after ∧
      Refilled volume.geometry chain node ((tree node).stored.written offset bytes) before blocks
        after := by
  intro bits blocks grown after
  have ledger := stored.ledger
  have count := stored.length node
  have capacity := stored.stored_le node
  have stream := stored.stream node
  generalize (tree node).stored = content at *
  have fewer : volume.geometry.blocksFor (offset + bytes.length) - (chain node).length ≤
      Bitmap.clearCount before.bitmap volume.geometry.blocks := by
    rw [Bytes.length_written some, Geometry.blocksFor_max, ledger.free] at enough
    omega
  obtain ⟨grows, ledger', beside, length, stream'⟩ := Volume.growChain_leads ledger notAnchor fewer
  change bits.length = _ at length
  change grown.stream blocks = _ ++ .zeros (bits.length * _) at stream'
  have size : blocks.length = volume.geometry.blocksFor (content.written offset bytes).length := by
    rw [List.length_append, List.length_map, length, Bytes.length_written some,
      Geometry.blocksFor_max]
    omega
  have isChain : update chain node blocks node = blocks := Function.update_self ..
  have room : (content.written offset bytes).length ≤ blocks.length * volume.geometry.payloadSize := by
    rw [size]
    exact volume.geometry.le_blocksFor _
  rw [Bytes.length_written some] at room
  have fits : offset + bytes.length ≤
      (update chain node blocks node).length * volume.geometry.payloadSize := by
    rw [isChain]
    omega
  obtain ⟨writes, ledger'', beside', stream''⟩ := Volume.writeStream_leads ledger' notAnchor fits
  rw [isChain] at writes ledger'' beside' stream''
  have total : content.length + ((chain node).length * volume.geometry.payloadSize -
      content.length + bits.length * volume.geometry.payloadSize) =
        blocks.length * volume.geometry.payloadSize := by
    rw [List.length_append, List.length_map, Nat.add_mul]
    omega
  rw [stream', stream, List.append_assoc, Bytes.zeros_append,
    Bytes.overlay_append_zeros some (by omega), total, ← Bytes.length_written some] at stream''
  exact ⟨grows, writes, ledger'', beside.trans beside', size, stream''⟩

theorem Tree.vacancy_congr {tree tree' : Tree} (live : ∀ node, (tree' node).IsLive ↔ (tree node).IsLive)
    (slots : Nat) : tree'.vacancy slots = tree.vacancy slots := by
  rw [vacancy, vacancy]
  congr 1
  funext slot
  rw [decide_eq_decide.mpr (live slot)]

theorem Tree.isLive_setContent {content' : Bytes} (body : (tree node).body = .file content)
    (other : Nat) : (tree.setContent node content' other).IsLive ↔ (tree other).IsLive := by
  refine (Function.forall_update_iff tree fun other node =>
    (node.IsLive ↔ (tree other).IsLive)).mpr ⟨?_, fun _ _ => .rfl⟩ other
  rw [Node.IsLive, Node.IsLive, body]
  simp

namespace Represents

theorem stored_of_file (body : (tree node).body = .file content) :
    (tree node).stored = content := by
  rw [Node.stored, body]
  rfl

theorem inside_of_file (represents : Represents volume.geometry before tree chain)
    (body : (tree node).body = .file content) : node < volume.geometry.inodeCount := by
  refine represents.wellFormed.lt_of_isLive ?_
  rw [Node.IsLive, body]
  simp

/-- The disk after the chain of a file has been refilled and its new size has been written. -/
theorem setContent (represents : Represents volume.geometry before tree chain) {content' : Bytes}
    {blocks : List Nat} (notAnchor : node ≠ InodeNumber.anchor)
    (body : (tree node).body = .file content)
    (refilled : Refilled volume.geometry chain node content' before blocks after) :
    Represents volume.geometry
      { after with
        record := update after.record node
          (({ tree node with body := .file content' } : Node).inode blocks).record }
      (tree.setContent node content') (update chain node blocks) where
  stored := represents.stored.replace (represents.inside_of_file body) notAnchor
    (represents.stored.fits node) (fun _ member => by cases member) refilled
  wellFormed := by
    have notRoot : InodeNumber.root ≠ node := by
      rintro rfl
      obtain ⟨children, directory⟩ := represents.wellFormed.rootBody
      rw [directory] at body
      cases body
    refine represents.wellFormed.congr ?_ ?_ (Tree.isLive_setContent body) ?_ ?_ ?_
    · exact (Function.forall_update_iff tree fun other node => node.name = (tree other).name).mpr
        ⟨rfl, fun _ _ => rfl⟩
    · refine (Function.forall_update_iff tree fun other node =>
        node.children = (tree other).children).mpr ⟨?_, fun _ _ => rfl⟩
      rw [Node.children, Node.children, body]
    · rw [Tree.setContent, Function.update_of_ne notRoot]
    · rw [Tree.setContent, Function.update_of_ne (Ne.symm notAnchor)]
    · intro other behind
      have inside := represents.inside_of_file body
      rw [Tree.setContent, Function.update_of_ne (by omega)]
  slotCursor := by
    rw [Tree.vacancy_congr (Tree.isLive_setContent body)]
    exact refilled.beside.slotCursor.trans represents.slotCursor

end Represents

/-! What operations on an open file do to the tree -/

namespace Tree

variable (tree : Tree)

/-- The content of an open file, unless the file has been removed since. -/
def contentOf (file : OpenFile) : Option Bytes :=
  match (tree file.inode).body with
  | .file content => if (tree file.inode).generation = file.generation then some content else none
  | _ => none

def writeOffset (file : OpenFile) (content : Bytes) : Nat :=
  if file.mode = .append then content.length else file.offset

/-- The blocks that a content of one length needs beyond those of another. -/
def extraBlocks (geometry : Geometry) (length length' : Nat) : Nat :=
  geometry.blocksFor length' - geometry.blocksFor length

theorem extraBlocks_written {bytes : Bytes} (some : bytes ≠ []) (geometry : Geometry)
    (content : Bytes) (offset : Nat) :
    extraBlocks geometry content.length (content.written offset bytes).length =
      geometry.blocksFor (offset + bytes.length) - geometry.blocksFor content.length := by
  rw [extraBlocks, Bytes.length_written some, Geometry.blocksFor_max]
  omega

/-- Writing through an open file, with the offset behind the written bytes. -/
def write (geometry : Geometry) (free : Nat) (file : OpenFile) (bytes : Bytes) :
    Except FsError Nat × Tree :=
  match tree.contentOf file with
  | none => (.error (.noSuchFile file.name), tree)
  | some content =>
      let offset := writeOffset file content
      let written := content.written offset bytes
      if Limit.word64 ≤ offset + bytes.length then (.error (.misfit .writeOverflow), tree)
      else if free < extraBlocks geometry content.length written.length then
        (.error .noFreeBlocks, tree)
      else (.ok (offset + bytes.length), tree.setContent file.inode written)

section Written

variable (geometry : Geometry) (disk : Disk) (chain : Nat → List Nat) (node : Nat) (content : Bytes)
  (offset : Nat) (bytes : Bytes)

/-- The bits of the blocks that writing into a file takes. -/
def writtenBits : List Nat :=
  disk.nextBits geometry (extraBlocks geometry content.length (content.written offset bytes).length)

/-- The chain of a file after bytes have been written into it. -/
def writtenBlocks : List Nat :=
  chain node ++ (writtenBits geometry disk content offset bytes).map geometry.blockOfBit

/-- The disk after bytes have been written into a file. -/
def writtenDisk : Disk :=
  disk.store geometry node (chain node) (writtenBits geometry disk content offset bytes) offset bytes
    (({ tree node with body := .file (content.written offset bytes) } : Node).inode
      (writtenBlocks geometry disk chain node content offset bytes)).record

end Written

def truncate (geometry : Geometry) (free : Nat) (file : OpenFile) (length : Nat) :
    Except FsError Unit × Tree :=
  match tree.contentOf file with
  | none => (.error (.noSuchFile file.name), tree)
  | some content =>
      if free < extraBlocks geometry content.length length then (.error .noFreeBlocks, tree)
      else (.ok (), tree.setContent file.inode (content.resized length))

variable {tree}

theorem contentOf_eq_some {file : OpenFile} {content : Bytes} :
    tree.contentOf file = some content ↔ (tree file.inode).body = .file content ∧
      (tree file.inode).generation = file.generation := by
  rw [contentOf]
  cases (tree file.inode).body <;> simp
  exact and_comm

theorem setContent_eq_self {node : Nat} {content : Bytes} (body : (tree node).body = .file content) :
    tree.setContent node content = tree := by
  rw [setContent, ← body]
  exact Function.update_eq_self ..

end Tree

/-! The operations under their locks -/

namespace Volume

variable (volume : Volume)

def readLocked (file : OpenFile) (count : Nat) : Update Bytes := do
  let inode ← volume.liveInode file
  let length := min (inode.size.toNat - file.offset) count
  if length = 0 then return []
  let chain ← volume.chain inode.firstBlock.toNat
  volume.readChain chain file.offset length

def seekLocked (file : OpenFile) (origin : Origin) (delta : Int) : Update Nat := do
  let inode ← volume.liveInode file
  let base :=
    match origin with
    | .start => 0
    | .current => file.offset
    | .stop => inode.size.toNat
  return min (base + delta).toNat inode.size.toNat

def writeLocked (file : OpenFile) (bytes : Bytes) : Update Nat := do
  let inode ← volume.liveInode file
  let offset := if file.mode = .append then inode.size.toNat else file.offset
  let stop := offset + bytes.length
  if Limit.word64 ≤ stop then throw (.misfit .writeOverflow)
  if bytes.isEmpty then return stop
  let chain ← volume.chain inode.firstBlock.toNat
  let chain ← volume.growChain chain stop
  volume.writeChain chain offset bytes
  volume.putInode file.inode { inode with
    size := UInt64.ofNat (max inode.size.toNat stop)
    firstBlock := UInt64.ofNat (chain.headD 0) }
  return stop

/-- Writing into a file whose inode has been read. -/
def writeAt (node : Nat) (inode : Inode) (offset : Nat) (bytes : Bytes) : Update Nat := do
  if Limit.word64 ≤ offset + bytes.length then throw (.misfit .writeOverflow)
  if bytes.isEmpty then return offset + bytes.length
  let chain ← volume.chain inode.firstBlock.toNat
  let chain ← volume.growChain chain (offset + bytes.length)
  volume.writeChain chain offset bytes
  volume.putInode node { inode with
    size := UInt64.ofNat (max inode.size.toNat (offset + bytes.length))
    firstBlock := UInt64.ofNat (chain.headD 0) }
  return offset + bytes.length

theorem writeLocked_eq (file : OpenFile) (bytes : Bytes) :
    volume.writeLocked file bytes = (do
      let inode ← volume.liveInode file
      let offset := if file.mode = .append then inode.size.toNat else file.offset
      volume.writeAt file.inode inode offset bytes) := rfl

def resizeChain (size : Nat) (chain : List Nat) (length : Nat) : Update (List Nat) := do
  if length < size then
    let (outcome, chain) ← volume.shrinkChain chain length
    outcome
    volume.clearBehind chain length
    return chain
  else volume.growChain chain length

def truncateLocked (file : OpenFile) (length : Nat) : Update Unit := do
  let inode ← volume.liveInode file
  if length = inode.size.toNat then return
  let chain ← volume.chain inode.firstBlock.toNat
  let chain ← volume.resizeChain inode.size.toNat chain length
  volume.putInode file.inode { inode with
    size := UInt64.ofNat length
    firstBlock := UInt64.ofNat (chain.headD 0) }

theorem readFile_eq (handle count : Nat) :
    volume.readFile handle count = (do
      let file ← FileAction.file handle
      let bytes ← volume.withOpenFile file .shared (volume.readLocked file count)
      FileAction.setOffset handle (file.offset + bytes.length)
      return bytes) := rfl

theorem seekFile_eq (handle : Nat) (origin : Origin) (delta : Int) :
    volume.seekFile handle origin delta = (do
      let file ← FileAction.file handle
      let position ← volume.withOpenFile file .shared (volume.seekLocked file origin delta)
      FileAction.setOffset handle position
      return position) := rfl

theorem writeFile_eq (handle : Nat) (bytes : Bytes) :
    volume.writeFile handle bytes = (do
      let file ← FileAction.file handle
      if !file.mode.canWrite then throw .wrongMode
      let stop ← volume.withOpenFile file .exclusive (volume.writeLocked file bytes)
      FileAction.setOffset handle stop) := rfl

theorem truncateFile_eq (handle length : Nat) :
    volume.truncateFile handle length = (do
      let file ← FileAction.file handle
      if !file.mode.canWrite then throw .wrongMode
      volume.withOpenFile file .exclusive (volume.truncateLocked file length)) := rfl

end Volume

/-- The update ends with the answer, on a disk that stands for the tree. An error leaves the disk as it
was. -/
def Does {α : Type} (volume : Volume) (update : Update α) (before : Disk)
    (result : Except FsError α × Tree) : Prop :=
  ∃ after chain, Leads volume update before result.1 after ∧
    Represents volume.geometry after result.2 chain ∧
    ∀ error, result.1 = .error error → after = before

theorem Does.unchanged {α : Type} {update : Update α} {answer : Except FsError α}
    (represents : Represents volume.geometry before tree chain)
    (leads : Leads volume update before answer before) :
    Does volume update before (answer, tree) :=
  ⟨before, chain, leads, represents, fun _ _ => rfl⟩

namespace Represents

variable {file : OpenFile}

theorem liveInode_answers (represents : Represents volume.geometry before tree chain)
    (live : tree.contentOf file = some content) :
    Answers volume (volume.liveInode file) before
      (.ok ((tree file.inode).inode (chain file.inode))) := by
  obtain ⟨body, generation⟩ := Tree.contentOf_eq_some.mp live
  refine (represents.stored.getInode_answers (represents.inside_of_file body)).bind ?_
  refine Answers.ite_neg ?_ (.pure _)
  rw [not_or, not_not, not_not]
  exact ⟨by rw [Node.inode, body]; rfl, generation⟩

theorem liveInode_answers_error (represents : Represents volume.geometry before tree chain)
    (inside : file.inode < volume.geometry.inodeCount) (gone : tree.contentOf file = none) :
    Answers volume (volume.liveInode file) before (.error (.noSuchFile file.name)) := by
  refine (represents.stored.getInode_answers inside).bind ?_
  refine Answers.ite_pos ?_ (Answers.throw _).bind_error
  rw [Tree.contentOf] at gone
  split at gone
  · next content body =>
    split at gone
    · cases gone
    · next different => exact .inr different
  · next notFile =>
    refine .inl fun isFile => ?_
    cases body : (tree file.inode).body with
    | file content => exact notFile content body
    | _ =>
        rw [Node.inode, body] at isFile
        cases isFile

theorem length_of_file (represents : Represents volume.geometry before tree chain)
    (body : (tree node).body = .file content) :
    ((tree node).inode (chain node)).size.toNat = content.length := by
  rw [represents.stored.size_toNat, stored_of_file body]

theorem stream_of_file (represents : Represents volume.geometry before tree chain)
    (body : (tree node).body = .file content) :
    before.stream (chain node) = content ++
      .zeros ((chain node).length * volume.geometry.payloadSize - content.length) := by
  rw [represents.stored.stream, stored_of_file body]

theorem blocks_of_file (represents : Represents volume.geometry before tree chain)
    (body : (tree node).body = .file content) :
    (chain node).length = volume.geometry.blocksFor content.length := by
  rw [represents.stored.length, stored_of_file body]

/-! Reading and seeking -/

theorem readLocked_leads (represents : Represents volume.geometry before tree chain)
    (taken : InodeNumber.firstFree ≤ file.inode) (live : tree.contentOf file = some content)
    (count : Nat) :
    Leads volume (volume.readLocked file count) before
      (.ok ((content.drop file.offset).take count)) before := by
  obtain ⟨body, -⟩ := Tree.contentOf_eq_some.mp live
  have notAnchor : file.inode ≠ InodeNumber.anchor := Nat.ne_of_gt taken
  have length := represents.length_of_file body
  refine (Leads.query (represents.liveInode_answers live)).bind ?_
  rw [length]
  by_cases none : min (content.length - file.offset) count = 0
  · have empty : (content.drop file.offset).take count = [] := by
      rw [← List.length_eq_zero_iff, List.length_take, List.length_drop]
      omega
    rw [empty]
    exact Leads.ite_pos none (.pure _)
  · refine Leads.ite_neg none ?_
    refine (Leads.query (represents.stored.chain_answers _)).bind ?_
    have fits : file.offset + min (content.length - file.offset) count ≤
        (tree file.inode).stored.length := by
      rw [stored_of_file body]
      omega
    have reads := represents.stored.readChain_answers notAnchor fits
    have same : (content.drop file.offset).take (min (content.length - file.offset) count) =
        (content.drop file.offset).take count := by
      rw [List.take_eq_take_iff, List.length_drop]
      omega
    rw [stored_of_file body, same] at reads
    exact .query reads

def seekTarget (file : OpenFile) (content : Bytes) (origin : Origin) (delta : Int) : Nat :=
  let base :=
    match origin with
    | .start => 0
    | .current => file.offset
    | .stop => content.length
  min ((base : Int) + delta).toNat content.length

theorem seekLocked_leads (represents : Represents volume.geometry before tree chain)
    (live : tree.contentOf file = some content) (origin : Origin) (delta : Int) :
    Leads volume (volume.seekLocked file origin delta) before
      (.ok (seekTarget file content origin delta)) before := by
  obtain ⟨body, -⟩ := Tree.contentOf_eq_some.mp live
  have length := represents.length_of_file body
  refine (Leads.query (represents.liveInode_answers live)).bind ?_
  rw [length]
  exact .pure _

/-! Writing -/

theorem resized_inode {blocks blocks' : List Nat} (body : (tree node).body = .file content)
    (content' : Bytes) :
    { (tree node).inode blocks with
      size := UInt64.ofNat content'.length
      firstBlock := UInt64.ofNat (blocks'.headD 0) } =
      ({ tree node with body := .file content' } : Node).inode blocks' := by
  simp [Node.inode, Node.stored, Body.stored, Body.kind, body]

theorem writeGrown_leads (represents : Represents volume.geometry before tree chain)
    (notAnchor : node ≠ InodeNumber.anchor) (body : (tree node).body = .file content)
    {offset : Nat} {bytes : Bytes} (some : bytes ≠ [])
    (enough : Tree.extraBlocks volume.geometry content.length (content.written offset bytes).length ≤
      before.counter .freeBlocks) :
    let blocks := Tree.writtenBlocks volume.geometry before chain node content offset bytes
    let after := tree.writtenDisk volume.geometry before chain node content offset bytes
    Leads volume (do
        let grown ← volume.growChain (chain node) (offset + bytes.length)
        volume.writeChain grown offset bytes
        volume.putInode node { (tree node).inode (chain node) with
          size := UInt64.ofNat (max content.length (offset + bytes.length))
          firstBlock := UInt64.ofNat (grown.headD 0) })
        before (.ok ()) after ∧
      Represents volume.geometry after (tree.setContent node (content.written offset bytes))
        (update chain node blocks) := by
  intro blocks after
  have count : volume.geometry.blocksFor (offset + bytes.length) - (chain node).length =
      Tree.extraBlocks volume.geometry content.length (content.written offset bytes).length := by
    rw [Tree.extraBlocks_written some, represents.blocks_of_file body]
  rw [Tree.extraBlocks, ← stored_of_file body] at enough
  obtain ⟨grows, writes, refilled⟩ := represents.stored.grown_leads notAnchor some enough
  rw [count] at grows writes refilled
  rw [stored_of_file body] at refilled
  refine ⟨?_, represents.setContent notAnchor body refilled⟩
  refine grows.bind (writes.bind ?_)
  rw [← Bytes.length_written some, resized_inode body]
  exact Volume.putInode_leads (represents.inside_of_file body) (represents.stored.fits node)

theorem writeGrown_error (represents : Represents volume.geometry before tree chain)
    (body : (tree node).body = .file content) {offset : Nat} {bytes : Bytes} (some : bytes ≠ [])
    (fewer : before.counter .freeBlocks <
      Tree.extraBlocks volume.geometry content.length (content.written offset bytes).length) :
    Leads volume (volume.growChain (chain node) (offset + bytes.length)) before
      (.error .noFreeBlocks) before := by
  refine Volume.growChain_error represents.stored.ledger ?_
  rw [Tree.extraBlocks_written some, represents.stored.ledger.free] at fewer
  rwa [represents.blocks_of_file body]

/-- Writing no bytes changes nothing. -/
theorem writtenDisk_nil (represents : Represents volume.geometry before tree chain)
    (body : (tree node).body = .file content) (offset : Nat) :
    tree.writtenDisk volume.geometry before chain node content offset [] = before := by
  have ledger := represents.stored.ledger
  have same : content.written offset [] = content := rfl
  have none : Tree.writtenBits volume.geometry before content offset [] = [] := by
    simp [Tree.writtenBits, Tree.extraBlocks, same, Disk.nextBits]
  have record := represents.stored.record node (represents.inside_of_file body)
  simp only [Tree.writtenDisk, Tree.writtenBlocks, none, same, List.map_nil, List.append_nil, ← body,
    ← record]
  exact Disk.store_nil (ledger.linked node)
    (fun block member => ledger.lengths block (ledger.isData node block member)) offset

/-- Writing into a file stores the bytes in its chain. -/
theorem writeAt_leads (represents : Represents volume.geometry before tree chain)
    (notAnchor : node ≠ InodeNumber.anchor) (body : (tree node).body = .file content)
    {offset : Nat} {bytes : Bytes} (addressable : offset + bytes.length < Limit.word64)
    (enough : Tree.extraBlocks volume.geometry content.length (content.written offset bytes).length ≤
      before.counter .freeBlocks) :
    let blocks := Tree.writtenBlocks volume.geometry before chain node content offset bytes
    let after := tree.writtenDisk volume.geometry before chain node content offset bytes
    Leads volume (volume.writeAt node ((tree node).inode (chain node)) offset bytes) before
        (.ok (offset + bytes.length)) after ∧
      Represents volume.geometry after (tree.setContent node (content.written offset bytes))
        (update chain node blocks) := by
  intro blocks after
  by_cases none : bytes = []
  · subst none
    have same : after = before := represents.writtenDisk_nil body offset
    have isChain : blocks = chain node := by
      simp [blocks, Tree.writtenBlocks, Tree.writtenBits, Tree.extraBlocks, Bytes.written,
        Disk.nextBits]
    have isContent : content.written offset [] = content := rfl
    rw [same, isChain, Function.update_eq_self, isContent, Tree.setContent_eq_self body]
    exact ⟨Leads.ite_neg (Nat.not_le.mpr addressable) (Leads.ite_pos rfl (.pure _)), represents⟩
  · obtain ⟨leads, represents'⟩ := represents.writeGrown_leads notAnchor body none enough
    refine ⟨Leads.ite_neg (Nat.not_le.mpr addressable) (Leads.ite_neg (by simpa using none) ?_),
      represents'⟩
    have ends := leads.returning (offset + bytes.length)
    simp only [bind_assoc] at ends
    rw [represents.length_of_file body]
    exact (Leads.query (represents.stored.chain_answers node)).bind ends

theorem writeAt_refuses (represents : Represents volume.geometry before tree chain)
    (body : (tree node).body = .file content) {offset : Nat} {bytes : Bytes}
    (addressable : offset + bytes.length < Limit.word64)
    (fewer : before.counter .freeBlocks <
      Tree.extraBlocks volume.geometry content.length (content.written offset bytes).length) :
    Leads volume (volume.writeAt node ((tree node).inode (chain node)) offset bytes) before
      (.error .noFreeBlocks) before := by
  by_cases none : bytes = []
  · simp [none, Tree.extraBlocks, Bytes.written] at fewer
  · refine Leads.ite_neg (Nat.not_le.mpr addressable) (Leads.ite_neg (by simpa using none) ?_)
    exact (Leads.query (represents.stored.chain_answers node)).bind
      (represents.writeGrown_error body none fewer).bind_error

theorem writeLocked_leads (represents : Represents volume.geometry before tree chain)
    (live : tree.contentOf file = some content) {bytes : Bytes} {answer : Except FsError Nat}
    (leads : Leads volume (volume.writeAt file.inode ((tree file.inode).inode (chain file.inode))
      (Tree.writeOffset file content) bytes) before answer after) :
    Leads volume (volume.writeLocked file bytes) before answer after := by
  obtain ⟨body, -⟩ := Tree.contentOf_eq_some.mp live
  rw [Volume.writeLocked_eq]
  refine (Leads.query (represents.liveInode_answers live)).bind ?_
  rw [represents.length_of_file body]
  exact leads

theorem writeLocked_does (represents : Represents volume.geometry before tree chain)
    (taken : InodeNumber.firstFree ≤ file.inode) (inside : file.inode < volume.geometry.inodeCount)
    (bytes : Bytes) :
    Does volume (volume.writeLocked file bytes) before
      (tree.write volume.geometry (before.counter .freeBlocks) file bytes) := by
  have notAnchor : file.inode ≠ InodeNumber.anchor := Nat.ne_of_gt taken
  rw [Tree.write]
  cases live : tree.contentOf file with
  | none =>
      refine .unchanged represents ?_
      exact (Leads.query (represents.liveInode_answers_error inside live)).bind_error
  | some content =>
      obtain ⟨body, -⟩ := Tree.contentOf_eq_some.mp live
      dsimp only
      split
      · next overflow =>
        exact .unchanged represents (represents.writeLocked_leads live
          (Leads.ite_pos overflow (Leads.throw _).bind_error))
      · next addressable =>
        split
        · next fewer =>
          exact .unchanged represents (represents.writeLocked_leads live
            (represents.writeAt_refuses body (Nat.not_le.mp addressable) fewer))
        · next enough =>
          obtain ⟨leads, represents'⟩ := represents.writeAt_leads notAnchor body
            (Nat.not_le.mp addressable) (Nat.not_lt.mp enough)
          exact ⟨_, _, represents.writeLocked_leads live leads, represents',
            fun _ impossible => by cases impossible⟩

/-! Truncating -/

theorem clearBehind_leads {length : Nat} (ledger : Ledger volume.geometry before chain)
    (notAnchor : node ≠ InodeNumber.anchor)
    (short : length ≤ (chain node).length * volume.geometry.payloadSize) :
    ∃ after, Leads volume (volume.clearBehind (chain node) length) before (.ok ()) after ∧
      Ledger volume.geometry after chain ∧ Beside volume.geometry node chain before after ∧
      after.stream (chain node) = (before.stream (chain node)).take length ++
        .zeros ((chain node).length * volume.geometry.payloadSize - length) := by
  have whole : (before.stream (chain node)).length =
      (chain node).length * volume.geometry.payloadSize :=
    Disk.length_stream fun block member => ledger.lengths block (ledger.isData node block member)
  have isCapacity : volume.chainCapacity (chain node) =
      (chain node).length * volume.geometry.payloadSize := rfl
  by_cases tail : length < volume.chainCapacity (chain node)
  · have fits : length + (Bytes.zeros (volume.chainCapacity (chain node) - length)).length =
        (chain node).length * volume.geometry.payloadSize := by
      rw [Bytes.length_zeros]
      omega
    obtain ⟨writes, ledger', beside, stream⟩ :=
      Volume.writeStream_leads ledger notAnchor (Nat.le_of_eq fits)
    rw [Bytes.overlay_rest (by rw [fits, whole])] at stream
    refine ⟨_, Leads.ite_neg ?_ (Leads.ite_pos tail writes), ledger', beside, stream⟩
    exact Nat.not_lt.mpr short
  · refine ⟨before, Leads.ite_neg ?_ (Leads.ite_neg tail (.pure _)), ledger, .refl .., ?_⟩
    · exact Nat.not_lt.mpr short
    · rw [List.take_of_length_le (by omega), Nat.sub_eq_zero_of_le (by omega)]
      exact (List.append_nil _).symm

/-- Cutting the chain of a file clears what is left behind the new end. -/
theorem shrunk_leads (represents : Represents volume.geometry before tree chain)
    (notAnchor : node ≠ InodeNumber.anchor) (body : (tree node).body = .file content)
    {length : Nat} (shorter : length < content.length) :
    ∃ blocks after,
      Leads volume (volume.resizeChain content.length (chain node) length) before (.ok blocks) after ∧
      Refilled volume.geometry chain node (content.resized length) before blocks after := by
  have ledger := represents.stored.ledger
  have count := represents.blocks_of_file body
  obtain ⟨cut, shrinks, ledger', beside, payload⟩ :=
    Volume.shrinkChain_leads length ledger notAnchor
  let kept := (chain node).take (volume.geometry.blocksFor length)
  have isKept : update chain node kept node = kept := Function.update_self ..
  have keptLength : kept.length = volume.geometry.blocksFor length := by
    rw [List.length_take, count]
    exact Nat.min_eq_left (volume.geometry.blocksFor_mono (Nat.le_of_lt shorter))
  have short : length ≤ (update chain node kept node).length * volume.geometry.payloadSize := by
    rw [isKept, keptLength]
    exact volume.geometry.le_blocksFor length
  obtain ⟨after, clears, ledger'', beside', stream⟩ := clearBehind_leads ledger' notAnchor short
  rw [isKept] at clears stream short
  have keptStream : cut.stream kept =
      (before.stream (chain node)).take (kept.length * volume.geometry.payloadSize) := by
    rw [Disk.stream_congr fun block _ => congrFun payload block]
    exact Disk.stream_take _ fun block member =>
      ledger.lengths block (ledger.isData node block member)
  rw [keptStream, List.take_take, Nat.min_eq_left short, represents.stream_of_file body,
    List.take_append_of_le_length (Nat.le_of_lt shorter)] at stream
  refine ⟨kept, after, Leads.ite_pos shorter ?_, ledger'', beside.trans beside', ?_, ?_⟩
  · refine shrinks.bind ?_
    refine Leads.bind (Leads.except rfl) ?_
    exact clears.returning kept
  · rw [Bytes.length_resized, keptLength]
  · rw [stream, Bytes.length_resized, Bytes.resized_of_le (Nat.le_of_lt shorter)]

theorem grown_leads (represents : Represents volume.geometry before tree chain)
    (notAnchor : node ≠ InodeNumber.anchor) (body : (tree node).body = .file content)
    {length : Nat} (longer : content.length ≤ length)
    (enough : Tree.extraBlocks volume.geometry content.length length ≤ before.counter .freeBlocks) :
    ∃ blocks after,
      Leads volume (volume.resizeChain content.length (chain node) length) before (.ok blocks) after ∧
      Refilled volume.geometry chain node (content.resized length) before blocks after := by
  have ledger := represents.stored.ledger
  have count := represents.blocks_of_file body
  have capacity := represents.stored.stored_le node
  rw [stored_of_file body] at capacity
  obtain ⟨grows, ledger', beside, size, stream⟩ :=
    Volume.growChain_leads ledger notAnchor
      (by rwa [count, ← ledger.free] : volume.geometry.blocksFor length - (chain node).length ≤ _)
  generalize before.nextBits volume.geometry _ = bits at *
  have more := volume.geometry.blocksFor_mono longer
  have total : (chain node ++ bits.map volume.geometry.blockOfBit).length =
      volume.geometry.blocksFor length := by
    rw [List.length_append, List.length_map]
    omega
  have room := volume.geometry.le_blocksFor length
  rw [← total] at room
  have sum : (chain node).length * volume.geometry.payloadSize +
      bits.length * volume.geometry.payloadSize =
        (chain node ++ bits.map volume.geometry.blockOfBit).length * volume.geometry.payloadSize := by
    rw [List.length_append, List.length_map, Nat.add_mul]
  refine ⟨_, _, Leads.ite_neg (Nat.not_lt.mpr longer) grows, ledger', beside, ?_, ?_⟩
  · rw [Bytes.length_resized, total]
  · rw [stream, represents.stream_of_file body, Bytes.length_resized, Bytes.resized_of_ge longer,
      List.append_assoc, List.append_assoc, Bytes.zeros_append, Bytes.zeros_append]
    congr 2
    omega

theorem truncateLocked_does (represents : Represents volume.geometry before tree chain)
    (taken : InodeNumber.firstFree ≤ file.inode) (inside : file.inode < volume.geometry.inodeCount)
    (length : Nat) :
    Does volume (volume.truncateLocked file length) before
      (tree.truncate volume.geometry (before.counter .freeBlocks) file length) := by
  have notAnchor : file.inode ≠ InodeNumber.anchor := Nat.ne_of_gt taken
  rw [Tree.truncate]
  cases live : tree.contentOf file with
  | none =>
      refine .unchanged represents ?_
      exact (Leads.query (represents.liveInode_answers_error inside live)).bind_error
  | some content =>
      obtain ⟨body, -⟩ := Tree.contentOf_eq_some.mp live
      have size := represents.length_of_file body
      have begins {answer : Except FsError Unit} {after : Disk}
          (rest : Leads volume (do
            if length = content.length then return
            let blocks ← volume.chain ((tree file.inode).inode (chain file.inode)).firstBlock.toNat
            let resized ← volume.resizeChain content.length blocks length
            volume.putInode file.inode { (tree file.inode).inode (chain file.inode) with
              size := UInt64.ofNat length
              firstBlock := UInt64.ofNat (resized.headD 0) }) before answer after) :
          Leads volume (volume.truncateLocked file length) before answer after := by
        refine (Leads.query (represents.liveInode_answers live)).bind ?_
        rw [size]
        exact rest
      dsimp only
      by_cases same : length = content.length
      · subst same
        rw [if_neg (by simp [Tree.extraBlocks]), Bytes.resized_length, Tree.setContent_eq_self body]
        exact .unchanged represents (begins (Leads.ite_pos rfl (.pure _)))
      have continues {answer : Except FsError Unit} {after : Disk}
          (rest : Leads volume (do
            let resized ← volume.resizeChain content.length (chain file.inode) length
            volume.putInode file.inode { (tree file.inode).inode (chain file.inode) with
              size := UInt64.ofNat length
              firstBlock := UInt64.ofNat (resized.headD 0) }) before answer after) :
          Leads volume (volume.truncateLocked file length) before answer after :=
        begins (Leads.ite_neg same
          ((Leads.query (represents.stored.chain_answers file.inode)).bind rest))
      split
      · next fewer =>
        rw [Tree.extraBlocks, represents.stored.ledger.free,
          ← represents.blocks_of_file body] at fewer
        have longer : ¬ length < content.length := by
          intro shorter
          have le := volume.geometry.blocksFor_mono (Nat.le_of_lt shorter)
          rw [← represents.blocks_of_file body] at le
          omega
        exact .unchanged represents (continues (Leads.bind_error
          (Leads.ite_neg longer (Volume.growChain_error represents.stored.ledger fewer))))
      · next enough =>
        obtain ⟨blocks, after, resizes, refilled⟩ : ∃ blocks after,
            Leads volume (volume.resizeChain content.length (chain file.inode) length) before
              (.ok blocks) after ∧
            Refilled volume.geometry chain file.inode (content.resized length) before blocks after := by
          rcases Nat.lt_or_ge length content.length with shorter | longer
          · exact represents.shrunk_leads notAnchor body shorter
          · exact represents.grown_leads notAnchor body longer (Nat.not_lt.mp enough)
        refine ⟨_, _, continues (resizes.bind ?_), represents.setContent notAnchor body refilled,
          fun _ impossible => by cases impossible⟩
        have isInode := @resized_inode _ _ _ (chain file.inode) blocks body (content.resized length)
        rw [Bytes.length_resized] at isInode
        rw [isInode]
        exact Volume.putInode_leads inside (represents.stored.fits file.inode)

end Represents

end ImageFs
