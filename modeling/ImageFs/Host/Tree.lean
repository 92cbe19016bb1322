import ImageFs.Backing
import ImageFs.Path

/-!
The directories and files of the host, and the names that stand for them. A name is followed part
by part, and each part but the last must lead to a directory. A slash at the end asks for a
directory.
-/

namespace ImageFs

/-- The way from the root of the host, without empty, current and parent parts. -/
structure HostPath where
  parts : List String
deriving DecidableEq, Repr

namespace HostPath

/-- The longest part in bytes. -/
abbrev maxPartLength : Nat := 255

/-- The longest name in bytes. -/
abbrev maxNameLength : Nat := 4095

def root : HostPath :=
  ⟨[]⟩

def parent (path : HostPath) : HostPath :=
  ⟨path.parts.dropLast⟩

def child (path : HostPath) (part : String) : HostPath :=
  ⟨path.parts ++ [part]⟩

/-- Where a part leads from a directory. The root is its own parent. -/
def step (path : HostPath) (part : String) : HostPath :=
  if part = "." then path
  else if part = ".." then path.parent
  else path.child part

/-- Where a name starts. -/
def start (workingDirectory : HostPath) (name : String) : HostPath :=
  if name.startsWith "/" then root else workingDirectory

/-- The parts of a name. -/
def partsOf (name : String) : List String :=
  ((Path.pieces name.toList).map String.ofList).filter (!·.isEmpty)

/-- The paths that following the parts comes by. -/
def trail (path : HostPath) : List String → List HostPath
  | [] => [path]
  | part :: rest => path :: trail (path.step part) rest

end HostPath

inductive HostNode where
  | file (backing : Backing)
  | directory

/-- What a name stands for: a directory that is there, or an entry of one, which may be missing. -/
inductive HostTarget where
  | directory (path : HostPath)
  | entry (parent : HostPath) (part : String)
deriving DecidableEq, Repr

structure Host where
  workingDirectory : HostPath
  nodes : List (HostPath × HostNode)
  nextOwner : Nat

namespace Host

/-- A host with nothing but the directories that lead to the working directory. -/
def inside (workingDirectory : HostPath) : Host where
  workingDirectory
  nodes := (HostPath.root.trail workingDirectory.parts).map (·, .directory)
  nextOwner := 0

/-! Nodes -/

def node? (host : Host) (path : HostPath) : Option HostNode :=
  host.nodes.lookup path

def put (host : Host) (path : HostPath) (node : HostNode) : Host :=
  { host with nodes := (path, node) :: host.nodes.filter (·.1 ≠ path) }

def erase (host : Host) (path : HostPath) : Host :=
  { host with nodes := host.nodes.filter (·.1 ≠ path) }

/-! Names -/

/-- The entry of a directory, if its name is not too long. -/
def entryPath (parent : HostPath) (part : String) : Except HostError HostPath :=
  if HostPath.maxPartLength < part.utf8ByteSize then .error .nameTooLong
  else .ok (parent.child part)

/-- Follows parts from a directory. -/
def follow (host : Host) (directory : HostPath) : List String → Except HostError HostTarget
  | [] => .ok (.directory directory)
  | part :: rest => do
      if part = "." ∨ part = ".." then host.follow (directory.step part) rest
      else if rest.isEmpty then .ok (.entry directory part)
      else
        let path ← entryPath directory part
        match host.node? path with
        | some .directory => host.follow path rest
        | some (.file _) => .error .notDirectory
        | none => .error .notFound

/-- What a name stands for. -/
def locate (host : Host) (name : String) : Except HostError HostTarget := do
  if name.toList.contains '\x00' then throw .nulInName
  if name.isEmpty then throw .notFound
  if HostPath.maxNameLength < name.utf8ByteSize then throw .nameTooLong
  host.follow (HostPath.start host.workingDirectory name) (HostPath.partsOf name)

/-- The node that a name stands for. -/
def lookup (host : Host) (name : String) : Except HostError (HostPath × HostNode) := do
  match ← host.locate name with
  | .directory path => return (path, .directory)
  | .entry parent part =>
      let path ← entryPath parent part
      match host.node? path with
      | none => throw .notFound
      | some .directory => return (path, .directory)
      | some (.file backing) =>
          if name.endsWith "/" then throw .notDirectory
          return (path, .file backing)

def contains (host : Host) (name : String) : Bool :=
  (host.lookup name).toBool

/-- The file of a name. -/
def file (host : Host) (name : String) : Except HostError (HostPath × Backing) := do
  match ← host.lookup name with
  | (path, .file backing) => return (path, backing)
  | (_, .directory) => throw .isDirectory

/-- The path for a new file of a name, with what is there already. -/
def place (host : Host) (name : String) : Except HostError (HostPath × Option HostNode) := do
  match ← host.locate name with
  | .directory path => return (path, some .directory)
  | .entry parent part =>
      if name.endsWith "/" then throw .isDirectory
      let path ← entryPath parent part
      return (path, host.node? path)

/-! Files of others -/

/-- Stores a file under a name. Those who have the file open see the new content. -/
def writeFile (host : Host) (name : String) (content : Content) : Except HostError Host := do
  match ← host.place name with
  | (_, some .directory) => throw .isDirectory
  | (path, some (.file backing)) => return host.put path (.file { backing with content })
  | (path, none) => return host.put path (.file { content, locks := [] })

def makeDirectory (host : Host) (name : String) : Except HostError Host := do
  match ← host.locate name with
  | .directory _ => throw .fileExists
  | .entry parent part =>
      let path ← entryPath parent part
      match host.node? path with
      | some _ => throw .fileExists
      | none => return host.put path .directory

/-- Changes the content of a file in place. -/
def editFile (host : Host) (name : String) (edit : Content → Content) : Except HostError Host := do
  let (path, backing) ← host.file name
  return host.put path (.file { backing with content := edit backing.content })

end Host

end ImageFs
