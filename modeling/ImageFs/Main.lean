import ImageFs.CommandLine

/-!
The command-line program: loads the files that the arguments name, runs the command on them, and
stores those that it has changed.
-/

namespace ImageFs.Main

/-- The name of a path for the operating system. -/
def nameOf (path : HostPath) : String :=
  "/" ++ "/".intercalate path.parts

/-- Enters what the operating system has under a path, if anything. -/
def load (host : Host) (path : HostPath) : IO Host := do
  match ← (IO.FS.readBinFile (nameOf path)).toBaseIO with
  | .ok data =>
      let content := Content.ofData data.size data (Nat.le_refl _)
      return host.put path (.file { content, locks := [] })
  | .error (.inappropriateType ..) => return host.put path .directory
  | .error _ => return host

/-- Stores a file that the command has created or changed. -/
def store (before after : Host) (path : HostPath) : IO Unit := do
  match after.node? path with
  | some (.file backing) =>
      let unchanged :=
        match before.node? path with
        | some (.file old) =>
            old.content.size == backing.content.size && old.content.data == backing.content.data
        | _ => false
      if !unchanged then
        IO.FS.writeBinFile (nameOf path) backing.content.toBytes.toByteArray
  | _ => pure ()

end ImageFs.Main

def main (arguments : List String) : IO UInt32 := do
  let workingDirectory := { parts := ImageFs.HostPath.partsOf (toString (← IO.currentDir)) }
  let paths := arguments.flatMap fun name =>
    (ImageFs.HostPath.start workingDirectory name).trail (ImageFs.HostPath.partsOf name)
  let host ← paths.foldlM ImageFs.Main.load (ImageFs.Host.inside workingDirectory)
  let (outcome, after) := ImageFs.CommandLine.run arguments host
  paths.forM (ImageFs.Main.store host after)
  (← IO.getStdout).write outcome.output.toByteArray
  IO.eprint outcome.errors
  return UInt32.ofNat outcome.code
