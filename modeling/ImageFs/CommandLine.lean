import ImageFs.Host
import ImageFs.Text.Json
import ImageFs.Text.Numeral

/-!
The commands of the command-line program. A command reads and changes the host, and writes to
standard output as it goes; its failure is told on standard error, with what led to it.
-/

namespace ImageFs.CommandLine

/-- Why a command ends early: it tells what went wrong, the outermost context first, or the
program itself breaks down. -/
inductive Failure where
  | told (trace : List String)
  | halted

/-- The host, and what has been written, the latest piece first. -/
structure Console where
  host : Host
  written : List Bytes

def Console.output (console : Console) : Bytes :=
  console.written.reverse.flatten

abbrev Command (α : Type) : Type :=
  ExceptT Failure (StateM Console) α

structure Outcome where
  code : Nat
  output : Bytes
  errors : String

/-! Talking to the console and the host -/

def fail {α : Type} (message : String) : Command α :=
  throw (.told [message])

def write (bytes : Bytes) : Command Unit :=
  modify fun console => { console with written := bytes :: console.written }

def writeLine (line : String) : Command Unit :=
  write (Text.bytesOf (line ++ "\n"))

/-- Hands an answer on, and puts the context in front of an error. -/
def within {α : Type} (context : String) : Except Halt α → Command α
  | .ok value => pure value
  | .error (.failed error) => throw (.told (context :: error.trace))
  | .error _ => throw .halted

/-- Hands an answer on, and tells an error as it is. -/
def handOn {α : Type} : Except Halt α → Command α
  | .ok value => pure value
  | .error (.failed error) => throw (.told error.trace)
  | .error _ => throw .halted

/-- Lets a function act on the host. -/
def onHost {α : Type} (act : Host → α × Host) : Command α :=
  modifyGet fun console =>
    match act console.host with
    | (answer, host) => (answer, { console with host })

def openImage (name : String) : Command Host.Mounted := do
  let answer ← onHost (·.openImage name)
  within s!"failed to open image {name}" answer

def closeImage (mounted : Host.Mounted) : Command Unit := do
  let _ ← onHost (·.closeImage mounted)

/-- Performs an operation; what the image has become is handed on with the answer. -/
def perform (mounted : Host.Mounted) (operation : Image.Operation) :
    Command (Except Halt Image.Answer × Host.Mounted) :=
  onHost fun host =>
    match host.perform mounted operation with
    | (answer, mounted, host) => ((answer, mounted), host)

/-! Arguments -/

def valueFlags : List String :=
  ["--block-size", "--blocks"]

/-- The arguments that are neither flags nor values of flags. -/
def positional : List String → List String
  | [] => []
  | [argument] =>
      if valueFlags.contains argument || argument.startsWith "--" then [] else [argument]
  | argument :: next :: rest =>
      if valueFlags.contains argument then positional rest
      else if argument.startsWith "--" then positional (next :: rest)
      else argument :: positional (next :: rest)

/-- The number below `bound` behind the first occurrence of a flag. -/
def flagValue (flag : String) (bound : Nat) (arguments : List String) : Command (Option Nat) :=
  match arguments.dropWhile (· ≠ flag) with
  | [] => return none
  | [_] => fail s!"{flag} requires a value"
  | _ :: value :: _ =>
      match Text.readNumeral bound value with
      | .ok number => return some number
      | .error error => throw (.told [s!"invalid value for {flag}: {value}", error.message])

def usageLines : List String :=
  ["sfs",
    "",
    "USAGE:",
    "  sfs mkfs <image> [--block-size N] [--blocks N]",
    "  sfs inspect <image> [--json]",
    "  sfs ls <image> <path> [--json]",
    "  sfs mkdir <image> <path>",
    "  sfs touch <image> <path>",
    "  sfs put <image> <path> <host-file>",
    "  sfs cat <image> <path>",
    "  sfs rm <image> <path>",
    "  sfs check <image> [--json]"]

def printUsage : Command Unit :=
  usageLines.forM writeLine

/-! Creating and describing images -/

def makeImage (name : String) (arguments : List String) : Command Unit := do
  let blockSize ← flagValue "--block-size" Limit.word32 arguments
  let blocks ← flagValue "--blocks" Limit.word64 arguments
  let sizes : Host.ImageSizes := {}
  let sizes : Host.ImageSizes := {
    blockSize := (blockSize.map UInt32.ofNat).getD sizes.blockSize
    blocks := (blocks.map UInt64.ofNat).getD sizes.blocks }
  within s!"failed to create image {name}" (← onHost (·.initImage name sizes))
  writeLine s!"created {name} ({sizes.blocks} blocks of {sizes.blockSize} bytes)"

/-- The summary of an image as a document. -/
def summaryDocument (name : String) (geometry : Geometry) (usage : Usage) : Text.Json :=
  .object [
    ("path", .text name),
    ("block_size", .number usage.blockSize),
    ("total_blocks", .number usage.totalBlocks),
    ("free_blocks", .number usage.freeBlocks),
    ("data_start", .number usage.dataStart),
    ("inode_count", .number usage.inodeCount),
    ("free_inodes", .number usage.freeInodes),
    ("next_free_block", .number usage.nextFreeBlock),
    ("next_free_inode", .number usage.nextFreeInode),
    ("dir_mutex_holders", .number usage.holders),
    ("data_start_byte", .number (geometry.dataStart * geometry.blockSize)),
    ("image_bytes", .number geometry.imageLength)]

def summaryLines (name : String) (geometry : Geometry) (usage : Usage) : List String :=
  ["SimpleFS Inspector",
    s!"image: {name}",
    s!"block_size: {usage.blockSize}",
    s!"data_blocks: {usage.totalBlocks}",
    s!"free_blocks: {usage.freeBlocks}",
    s!"data_start: {usage.dataStart} (byte {geometry.dataStart * geometry.blockSize})",
    s!"inodes: {usage.inodeCount} ({usage.freeInodes} free)",
    s!"next_free_block: {usage.nextFreeBlock}",
    s!"next_free_inode: {usage.nextFreeInode}",
    s!"dir_mutex_holders: {usage.holders}"]

def inspect (name : String) (json : Bool) : Command Unit := do
  let mounted ← openImage name
  let (answer, mounted) ← perform mounted .usage
  match ← within "failed to read image summary" answer with
  | .usage usage =>
      let geometry := mounted.image.volume.geometry
      if json then writeLine (summaryDocument name geometry usage).print
      else (summaryLines name geometry usage).forM writeLine
  | _ => pure ()
  closeImage mounted

/-! Listing and checking -/

def kindName : FileKind → String
  | .file => "File"
  | .directory => "Directory"

def entryDocument (entry : ListedEntry) : Text.Json :=
  .object [
    ("name", .text entry.name),
    ("ino", .number entry.inode),
    ("kind", .text (kindName entry.kind)),
    ("size", .number entry.size)]

def entryLine (entry : ListedEntry) : String :=
  let marker :=
    match entry.kind with
    | .directory => "d"
    | .file => "-"
  s!"{marker} {Text.alignRight 10 (toString entry.size)} " ++
    s!"{Text.alignRight 6 (toString entry.inode)} {entry.name}"

def list (name path : String) (json : Bool) : Command Unit := do
  let mounted ← openImage name
  let (answer, mounted) ← perform mounted (.readDirectory path)
  match ← within s!"failed to list {path}" answer with
  | .entries entries =>
      if json then writeLine (Text.Json.list (entries.map entryDocument)).print
      else entries.forM (writeLine ∘ entryLine)
  | _ => pure ()
  closeImage mounted

def reportDocument (report : CheckReport) : Text.Json :=
  .object [
    ("errors", .list (report.findings.map (.text ·.message))),
    ("allocated_blocks", .number report.allocatedBlocks),
    ("free_blocks", .number report.freeBlocks),
    ("live_inodes", .number report.liveInodes)]

def reportLines (report : CheckReport) : List String :=
  (s!"allocated_blocks: {report.allocatedBlocks} free_blocks: {report.freeBlocks} " ++
    s!"live_inodes: {report.liveInodes}") ::
  report.findings.map ("ERROR " ++ ·.message)

def check (name : String) (json : Bool) : Command Unit := do
  let mounted ← openImage name
  let (answer, mounted) ← perform mounted .check
  match ← within "check failed" answer with
  | .report report =>
      if json then writeLine (reportDocument report).print
      else (reportLines report).forM writeLine
      closeImage mounted
      if !report.isClean then
        fail s!"{report.findings.length} consistency problem(s) found"
  | _ => pure ()

/-! Changing the tree -/

def makeDirectory (name path : String) : Command Unit := do
  let mounted ← openImage name
  let (answer, mounted) ← perform mounted (.create path .directory)
  let _ ← within s!"failed to create directory {path}" answer
  closeImage mounted

/-- Makes an empty file unless the path is taken. -/
def ensureFile (mounted : Host.Mounted) (path : String) : Command Host.Mounted := do
  let (answer, mounted) ← perform mounted (.create path .file)
  match answer with
  | .error (.failed .alreadyExists) => return mounted
  | answer =>
      let _ ← within s!"failed to create {path}" answer
      return mounted

def touch (name path : String) : Command Unit := do
  let mounted ← openImage name
  let mounted ← ensureFile mounted path
  closeImage mounted

def remove (name path : String) : Command Unit := do
  let mounted ← openImage name
  let (answer, mounted) ← perform mounted (.remove path)
  let _ ← within s!"failed to remove {path}" answer
  closeImage mounted

/-! Copying -/

def openFile (mounted : Host.Mounted) (path : String) (mode : AccessMode) :
    Command (Nat × Host.Mounted) := do
  let (answer, mounted) ← perform mounted (.openFile path mode)
  match ← within s!"failed to open {path}" answer with
  | .handle handle => return (handle, mounted)
  | _ => throw .halted

def closeFile (mounted : Host.Mounted) (handle : Nat) : Command Host.Mounted := do
  let (answer, mounted) ← perform mounted (.closeFile handle)
  let _ ← handOn answer
  return mounted

/-- Copies a host file into the image, over what the path held before. -/
def copyIn (name path source : String) : Command Unit := do
  let bytes ←
    match (← get).host.file source with
    | .ok (_, backing) => pure backing.content.toBytes
    | .error cause => throw (.told [s!"failed to read {source}", cause.message])
  let mounted ← openImage name
  let mounted ← ensureFile mounted path
  let (handle, mounted) ← openFile mounted path .writeOnly
  let (answer, mounted) ← perform mounted (.truncate handle 0)
  let _ ← within s!"failed to truncate {path}" answer
  let (answer, mounted) ← perform mounted (.write handle bytes)
  let _ ← within s!"failed to write {bytes.length} bytes to {path}" answer
  let mounted ← closeFile mounted handle
  closeImage mounted

/-- The bytes that are copied out at a time. -/
abbrev portion : Nat := 64 * 1024

/-- Writes a file out, at most `portions` many portions of it. -/
def writeOut (path : String) (handle : Nat) : Nat → Host.Mounted → Command Host.Mounted
  | 0, mounted => return mounted
  | portions + 1, mounted => do
      let (answer, mounted) ← perform mounted (.read handle portion)
      match ← within s!"failed to read {path}" answer with
      | .bytes bytes =>
          if bytes.isEmpty then return mounted
          write bytes
          writeOut path handle portions mounted
      | _ => return mounted

/-- Copies a file of the image to standard output. No file has more portions than the image has
bytes, so the copy is whole. -/
def copyOut (name path : String) : Command Unit := do
  let mounted ← openImage name
  let (handle, mounted) ← openFile mounted path .readOnly
  let mounted ← writeOut path handle (mounted.image.volume.geometry.imageLength + 1) mounted
  let mounted ← closeFile mounted handle
  closeImage mounted

/-! The program -/

def expected {α : Type} (command usage : String) : Command α :=
  fail s!"{command} requires {usage}"

def dispatch : List String → Command Unit
  | [] => printUsage
  | command :: rest => do
      let json := rest.contains "--json"
      match command, positional rest with
      | "mkfs", [image] => makeImage image rest
      | "mkfs", _ => expected command "<image>"
      | "inspect", [image] => inspect image json
      | "inspect", _ => expected command "<image>"
      | "ls", [image, path] => list image path json
      | "ls", _ => expected command "<image> <path>"
      | "mkdir", [image, path] => makeDirectory image path
      | "mkdir", _ => expected command "<image> <path>"
      | "touch", [image, path] => touch image path
      | "touch", _ => expected command "<image> <path>"
      | "put", [image, path, source] => copyIn image path source
      | "put", _ => expected command "<image> <path> <host-file>"
      | "cat", [image, path] => copyOut image path
      | "cat", _ => expected command "<image> <path>"
      | "rm", [image, path] => remove image path
      | "rm", _ => expected command "<image> <path>"
      | "check", [image] => check image json
      | "check", _ => expected command "<image>"
      | "--help", _ | "-h", _ | "help", _ => printUsage
      | _, _ => do
          printUsage
          fail s!"unknown command: {command}"

/-- The exit code, and what is written on standard error. -/
def verdict : Except Failure Unit → Nat × String
  | .ok () => (0, "")
  | .error (.told trace) => (1, "error: " ++ ": ".intercalate trace ++ "\n")
  | .error .halted => (101, "")

/-- Runs a command to its exit code, with all that it wrote. -/
def run (arguments : List String) (host : Host) : Outcome × Host :=
  let (result, console) := (dispatch arguments).run { host, written := [] }
  let (code, errors) := verdict result
  ({ code, output := console.output, errors }, console.host)

end ImageFs.CommandLine
