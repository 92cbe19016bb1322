import ImageFs.Host.Tree
import ImageFs.Image

/-!
The images that live in files of the host. Each opening of a file makes an owner of its own.
-/

namespace ImageFs

namespace Host

/-! Opening and creating -/

/-- A device on a file of the given length, with an owner that has not been used. -/
def newDevice (host : Host) (length : Nat) : Device × Host :=
  ({ owner := host.nextOwner, length }, { host with nextOwner := host.nextOwner + 1 })

def openDevice (host : Host) (name : String) : Except FsError (HostPath × Device × Host) :=
  match host.file name with
  | .error cause => .error (.hostFile name cause)
  | .ok (path, backing) => .ok (path, host.newDevice backing.content.size)

/-- Gives a file a length, if the host can express it. -/
def setLength (host : Host) (path : HostPath) (backing : Backing) (length : Nat) :
    Except HostError Host :=
  if Limit.hostOffset ≤ length then .error .lengthTooLarge
  else .ok (host.put path (.file { backing with content := backing.content.resize length }))

/-- Creates a file of zeros. What exists is left alone, and a file that could not be given its length
is removed. -/
def createDevice (host : Host) (name : String) (length : Nat) :
    Except FsError (HostPath × Device) × Host :=
  match host.place name with
  | .error cause => (.error (.hostFile name cause), host)
  | .ok (_, some _) => (.error .alreadyExists, host)
  | .ok (path, none) =>
      let empty : Backing := { content := .empty, locks := [] }
      let created := host.put path (.file empty)
      match created.setLength path empty length with
      | .error cause => (.error (.hostFile name cause), created.erase path)
      | .ok sized =>
          let (device, sized) := sized.newDevice length
          (.ok (path, device), sized)

/-- Runs an update on a file of the host. -/
def run {α : Type} (host : Host) (path : HostPath) (update : Update α) : Except Halt α × Host :=
  match host.node? path with
  | some (.file backing) =>
      let (answer, after) := update backing
      (answer, host.put path (.file after))
  | _ => (.error (.failed (.host .notFound)), host)

/-! Images -/

/-- The sizes of a new image, which may be left open. -/
structure ImageSizes where
  blockSize : UInt32 := 4096
  blocks : UInt64 := 1024
deriving DecidableEq, Repr

/-- Creates a file and lays a new image down in it. A file that could not be finished is removed. -/
def initImage (host : Host) (name : String) (sizes : ImageSizes) : Except Halt Unit × Host :=
  match Geometry.ofSizes sizes.blockSize sizes.blocks with
  | .error error => (.error (.failed error), host)
  | .ok geometry =>
      match host.createDevice name geometry.imageLength with
      | (.error error, host) => (.error (.failed error), host)
      | (.ok (path, device), host) =>
          let format : Update Unit := do
            let volume ← (liftM (Volume.ofDevice device geometry) : Query Volume)
            volume.format
            device.close
          match host.run path format with
          | (.ok (), host) => (.ok (), host)
          | (.error halt, host) => (.error halt, host.erase path)

/-- An image with the file that it lies in. -/
structure Mounted where
  path : HostPath
  image : Image

def openImage (host : Host) (name : String) : Except Halt Mounted × Host :=
  match host.openDevice name with
  | .error error => (.error (.failed error), host)
  | .ok (path, device, host) =>
      match host.run path (Image.ofDevice name device : Update Image) with
      | (.ok image, host) => (.ok { path, image }, host)
      | (.error halt, host) => (.error halt, host)

/-- Performs an operation on an image. -/
def perform (host : Host) (mounted : Mounted) (operation : Image.Operation) :
    Except Halt Image.Answer × Mounted × Host :=
  match host.node? mounted.path with
  | some (.file backing) =>
      let (answer, image, after) := mounted.image.perform operation backing
      (answer, { mounted with image }, host.put mounted.path (.file after))
  | _ => (.error (.failed (.host .notFound)), mounted, host)

/-- Closes a device, which gives up its locks. -/
def closeDevice (host : Host) (path : HostPath) (device : Device) : Host :=
  (host.run path device.close).2

/-- Closes an image and tells how many of its files were still open. -/
def closeImage (host : Host) (mounted : Mounted) : Nat × Host :=
  (mounted.image.files.count, host.closeDevice mounted.path mounted.image.volume.device)

end Host

end ImageFs
