import ImageFs.Image.Check
import ImageFs.Proofs.Stream

/-!
What the bytes of a file say as an image of a geometry, whatever they are: its inodes, the chains of
its blocks and the entries of its directories. Metadata is sound when the superblock, the slots, the
chains and the directories agree with each other.
-/

namespace ImageFs

/-- The entry in a record, which holds one whatever its bytes. -/
def DirEntry.ofRecord (record : Bytes) : DirEntry where
  name := Field.nameText (record.take nameWidth)
  inode := Bytes.toUInt64 ((record.drop nameWidth).take 8)

theorem DirEntry.parse_eq_ofRecord {record : Bytes} (length : record.length = recordLength) :
    parse record = .ok (ofRecord record) := by
  rw [parse, Field.slice_whole length (by decide)]
  rfl

/-! Readings -/

namespace Content

variable (content : Content) (geometry : Geometry)

def bitmap : Bytes :=
  content.area geometry .bitmap

def slot (number : Nat) : Except RecordError Inode :=
  Inode.parse (content.area geometry (.record number))

/-- The inode in a slot. A slot that cannot be read counts as empty. -/
def inode (number : Nat) : Inode :=
  (content.slot geometry number).toOption.getD .empty

def next (block : Nat) : Nat :=
  (content.area geometry (.link block)).toNat

def payload (block : Nat) : Bytes :=
  content.read (block * geometry.blockSize) geometry.payloadSize

def stream (blocks : List Nat) : Bytes :=
  blocks.flatMap (content.payload geometry)

/-- The records in the first `size` bytes of a stream. -/
def records (blocks : List Nat) (size : Nat) : List Bytes :=
  Listing.split (size / recordLength) ((content.stream geometry blocks).take size)

structure Live (number : Nat) : Prop where
  inside : number < geometry.inodeCount
  nonempty : (content.inode geometry number).isEmpty = false

structure Directory (number : Nat) : Prop where
  live : content.Live geometry number
  isDirectory : (content.inode geometry number).isDirectory = true

/-- The blocks are linked from `first` on, and the last of them to none. -/
structure IsChain (first : Nat) (blocks : List Nat) : Prop where
  head : blocks.headD 0 = first
  isData : ∀ block ∈ blocks, geometry.IsData block
  linked : Linked (content.next geometry) blocks

variable (chain : Nat → List Nat)

/-- The entries of a directory whose blocks are those of the chain. -/
def entries (directory : Nat) : List DirEntry :=
  (content.records geometry (chain directory)
    (content.inode geometry directory).size.toNat).map DirEntry.ofRecord

/-- A place in the tree: a slot of a directory. -/
structure Place where
  directory : Nat
  slot : Nat
deriving DecidableEq, Repr

/-- The entry at the place links to the inode. -/
structure LinksTo (place : Place) (number : Nat) : Prop where
  directory : content.Directory geometry place.directory
  entry : ∃ entry, (content.entries geometry chain place.directory)[place.slot]? = some entry ∧
    entry.inode.toNat = number

/-! Sound metadata -/

/-- The cursor is the lowest empty slot that may be handed out, or zero when there is none. -/
structure CursorAtLowest (cursor : Nat) : Prop where
  below : ∀ number, InodeNumber.firstFree ≤ number → number < geometry.inodeCount →
    (cursor = 0 ∨ number < cursor) → content.Live geometry number
  vacant : cursor ≠ 0 →
    InodeNumber.firstFree ≤ cursor ∧ cursor < geometry.inodeCount ∧ ¬ content.Live geometry cursor

structure SoundHeader (superblock : Superblock) : Prop where
  parsed : Superblock.parse (content.read 0 Superblock.length) = .ok superblock
  agrees : superblock.agree geometry = .ok ()
  anchorBit : Bitmap.get (content.bitmap geometry) 0 = true
  freeCount : superblock.freeBlocks.toNat =
    (List.range geometry.blocks).countP fun bit => !Bitmap.get (content.bitmap geometry) bit
  cursor : content.CursorAtLowest geometry superblock.nextFreeInode.toNat

structure SoundSlots : Prop where
  parsed : ∀ number, number < geometry.inodeCount → ∃ inode, content.slot geometry number = .ok inode
  root : content.Live geometry InodeNumber.root
  anchor : content.Live geometry InodeNumber.anchor

structure SoundChains : Prop where
  isChain : ∀ number, content.Live geometry number →
    content.IsChain geometry (content.inode geometry number).firstBlock.toNat (chain number)
  length : ∀ number, content.Live geometry number →
    (chain number).length = geometry.blocksFor (content.inode geometry number).size.toNat
  marked : ∀ number, content.Live geometry number → ∀ block ∈ chain number,
    Bitmap.get (content.bitmap geometry) (block - geometry.dataStart) = true
  apart : ∀ first second, content.Live geometry first → content.Live geometry second →
    first ≠ second → ∀ block ∈ chain first, block ∉ chain second
  anchor : geometry.anchorBlock ∈ chain InodeNumber.anchor
  owned : ∀ bit, FirstFit.firstUsable ≤ bit → bit < geometry.blocks →
    Bitmap.get (content.bitmap geometry) bit = true →
      ∃ number, content.Live geometry number ∧ geometry.blockOfBit bit ∈ chain number

structure SoundDirectories : Prop where
  whole : ∀ directory, content.Directory geometry directory →
    (content.inode geometry directory).size.toNat % recordLength = 0
  distinct : ∀ directory, content.Directory geometry directory →
    ((content.entries geometry chain directory).map DirEntry.name).Nodup
  target : ∀ directory, content.Directory geometry directory →
    ∀ entry ∈ content.entries geometry chain directory,
      InodeNumber.firstFree ≤ entry.inode.toNat ∧ content.Live geometry entry.inode.toNat ∧
        (content.inode geometry entry.inode.toNat).name = entry.name
  linked : ∀ number, InodeNumber.firstFree ≤ number → content.Live geometry number →
    ∃! place, content.LinksTo geometry chain place number

/-- Nothing is wrong with the metadata, the chains of the inodes being those given. -/
structure SoundAlong : Prop where
  header : ∃ superblock, content.SoundHeader geometry superblock
  slots : content.SoundSlots geometry
  chains : content.SoundChains geometry chain
  directories : content.SoundDirectories geometry chain

def Sound : Prop :=
  ∃ chain, content.SoundAlong geometry chain

end Content

/-! Chains -/

/-- Blocks other than zero that are linked and start alike are the same. -/
theorem Linked.unique {link : Nat → Nat} {first second : List Nat} (linked : Linked link first)
    (linked' : Linked link second) (nonzero : 0 ∉ first) (nonzero' : 0 ∉ second)
    (same : first.headD 0 = second.headD 0) : first = second := by
  induction first generalizing second with
  | nil =>
      cases second with
      | nil => rfl
      | cons block rest =>
          obtain rfl : 0 = block := same
          exact absurd List.mem_cons_self nonzero'
  | cons block rest induction =>
      cases second with
      | nil =>
          obtain rfl : block = 0 := same
          exact absurd List.mem_cons_self nonzero
      | cons block' rest' =>
          obtain rfl : block = block' := same
          rw [induction linked.2 linked'.2 (fun member => nonzero (List.mem_cons_of_mem _ member))
            (fun member => nonzero' (List.mem_cons_of_mem _ member))
            (linked.1.symm.trans linked'.1)]

theorem Linked.suffix {link : Nat → Nat} {front back : List Nat}
    (linked : Linked link (front ++ back)) : Linked link back := by
  induction front with
  | nil => exact linked
  | cons block front induction => exact induction linked.2

/-- What is linked to an end does not come back to a block. -/
theorem Linked.nodup {link : Nat → Nat} {blocks : List Nat} (linked : Linked link blocks)
    (nonzero : 0 ∉ blocks) : blocks.Nodup := by
  induction blocks with
  | nil => exact List.nodup_nil
  | cons block rest induction =>
      have nonzero' : 0 ∉ rest := fun member => nonzero (List.mem_cons_of_mem _ member)
      refine List.nodup_cons.mpr ⟨fun member => ?_, induction linked.2 nonzero'⟩
      obtain ⟨front, back, isRest⟩ := List.append_of_mem member
      have linkedBack : Linked link (block :: back) := by
        have linkedRest := linked.2
        rw [isRest] at linkedRest
        exact linkedRest.suffix
      have again : block :: rest = block :: back := by
        refine linked.unique linkedBack nonzero (fun inBack => nonzero' ?_) rfl
        rw [isRest]
        exact List.mem_append_right _ inBack
      have lengths := congrArg List.length again
      rw [isRest] at lengths
      simp only [List.length_cons, List.length_append] at lengths
      omega

namespace Content

variable {content : Content} {geometry : Geometry}

theorem link_of_isData {block : Nat} (isData : geometry.IsData block) :
    (Disk.of geometry content).link block = content.next geometry block :=
  if_pos isData

theorem payload_of_isData {block : Nat} (isData : geometry.IsData block)
    (notAnchor : block ≠ geometry.anchorBlock) :
    (Disk.of geometry content).payload block = content.payload geometry block := by
  have none : Area.reserved geometry block = 0 := if_neg notAnchor
  simp only [Disk.of, if_pos isData, none, Bytes.zeros, List.replicate_zero, List.nil_append,
    Content.area, Area.first, Area.length, Nat.add_zero, Nat.sub_zero]
  rfl

/-- The payload of the anchor begins with the count of holders, which no disk has. -/
theorem payload_eq_read (block : Nat) : content.payload geometry block =
    content.read (block * geometry.blockSize) (Area.reserved geometry block) ++
      content.area geometry (.payload block) := by
  have whole : geometry.payloadSize = Area.reserved geometry block +
      (geometry.payloadSize - Area.reserved geometry block) := by
    have reserved := Area.reserved_le geometry block
    have minimum := geometry.minimum
    have sum := geometry.payloadSize_add
    omega
  rw [payload, whole, Content.read_append]
  rfl

theorem payload_eq {first second : Content} {block : Nat} (isData : geometry.IsData block)
    (holders : second.holders geometry = first.holders geometry)
    (same : (Disk.of geometry second).payload block = (Disk.of geometry first).payload block) :
    second.payload geometry block = first.payload geometry block := by
  have payloads : second.area geometry (.payload block) = first.area geometry (.payload block) :=
    Disk.area_eq isData holders same
  have counts : second.area geometry .holders = first.area geometry .holders :=
    Disk.area_eq_of_toNat_eq holders
  rw [payload_eq_read, payload_eq_read, payloads, Area.reserved]
  split
  · next isAnchor =>
    subst isAnchor
    exact congrArg (· ++ _) counts
  · rfl

/-- A slot that does not count as empty can be read. -/
theorem slot_of_live {number : Nat} (live : content.Live geometry number) :
    content.slot geometry number = .ok (content.inode geometry number) := by
  have nonempty := live.nonempty
  rw [inode] at nonempty ⊢
  cases parsed : content.slot geometry number with
  | ok inode => rfl
  | error error =>
      rw [parsed] at nonempty
      cases nonempty

theorem IsChain.nonzero {first : Nat} {blocks : List Nat}
    (isChain : content.IsChain geometry first blocks) : 0 ∉ blocks :=
  fun member => geometry.ne_zero_of_isData (isChain.isData 0 member) rfl

theorem IsChain.nodup {first : Nat} {blocks : List Nat}
    (isChain : content.IsChain geometry first blocks) : blocks.Nodup :=
  isChain.linked.nodup isChain.nonzero

@[simp] theorem length_payload (content : Content) (block : Nat) :
    (content.payload geometry block).length = geometry.payloadSize :=
  Content.length_read ..

theorem length_stream (content : Content) (blocks : List Nat) :
    (content.stream geometry blocks).length = blocks.length * geometry.payloadSize := by
  induction blocks with
  | nil => simp [stream]
  | cons block rest induction =>
      rw [stream] at induction ⊢
      rw [List.flatMap_cons, List.length_append, induction, length_payload, List.length_cons,
        Nat.succ_mul, Nat.add_comm]

theorem length_of_mem_split {count : Nat} {bytes record : Bytes}
    (enough : count * recordLength ≤ bytes.length) (member : record ∈ Listing.split count bytes) :
    record.length = recordLength := by
  induction count generalizing bytes with
  | zero => cases member
  | succ count induction =>
      rw [Nat.succ_mul] at enough
      rcases List.mem_cons.mp member with isFirst | member
      · rw [isFirst, List.length_take]
        exact Nat.min_eq_left (Nat.le_of_add_left_le enough)
      · refine induction ?_ member
        rw [List.length_drop]
        exact Nat.le_sub_of_add_le enough

theorem length_of_mem_records {blocks : List Nat} {size : Nat} {record : Bytes}
    (enough : size ≤ blocks.length * geometry.payloadSize)
    (member : record ∈ content.records geometry blocks size) : record.length = recordLength := by
  refine length_of_mem_split ?_ member
  have cut := Nat.div_mul_le_self size recordLength
  rw [List.length_take, length_stream]
  omega

end Content

end ImageFs
