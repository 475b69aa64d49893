import BookingNotices.Blob.Name
import BookingNotices.Numeric.Total

/-!
# Blobs in a folder

* `Disk`        : a folder of a file system: names stand for files, a file is known by its node, and
  an open file stays the same node whatever happens to its name;
* `Disk.ensure` : makes the folder, and those above it, as far as they can be made;
* `Disk.create`, `writeAt`, `rename`, `read` : the steps that the file system takes at once;
* `Disk.Put`    : a put under way: it writes a temporary file piece by piece and renames it;
* `Disk.put`, `get`, `has` : the calls, each run to its end.
-/

namespace BookingNotices

/-- What a name of a folder stands for. -/
inductive Disk.Entry where
  | file (node : Nat)
  | folder
  deriving DecidableEq, Repr

/-- A folder of a file system. -/
structure Disk where
  /-- the names of the folders down to this one -/
  path : List String := ["blobs"]
  /-- how many of them have been made -/
  made : Nat := 0
  entries : Table String Disk.Entry := []
  contents : Table Nat Bytes := []
  nextNode : Nat := 0
  /-- the greatest size of a blob -/
  sizeLimit : Nat

namespace Disk

open Numeric

/-- Why the file system refuses a step. -/
inductive Fault where
  | missing
  | isFolder
  | nameTooLong
  | nullCharacter
  deriving DecidableEq, Repr

def Fault.message : Fault → String
  | .missing => "No such file or directory (os error 2)"
  | .isFolder => "Is a directory (os error 21)"
  | .nameTooLong => "File name too long (os error 36)"
  | .nullCharacter => "file name contained an unexpected NUL byte"

/-- The size of a blob may be ten megabytes if nobody says otherwise. -/
def defaultSizeLimit : Nat := 10 * 1024 * 1024

/-- How many bytes a name may have. -/
def nameLimit : Nat := 255

/-- How many bytes a path may have, a null character behind it included. -/
def pathLimit : Nat := 4096

/-- The names of the folders on a path. -/
def folders (path : String) : List String :=
  (path.splitOn "/").filter fun name => name != "" && name != "."

/-- Whether a name is short enough. -/
def isShort (name : String) : Bool := name.utf8ByteSize ≤ nameLimit

/-- Refuses paths that the file system does not walk at all. -/
def checkPath (names : List String) : Except Fault Unit :=
  if names.any fun name => name.toList.contains (Char.ofNat 0) then .error .nullCharacter
  else if pathLimit < total (names.map fun name => name.utf8ByteSize + 1) + 1 then
    .error .nameTooLong
  else .ok ()

/-- Makes the folders that are not there, up to one that cannot be made. -/
def ensure (d : Disk) : Except Blob.Error Unit × Disk :=
  match checkPath d.path with
  | .error f => (.error (.medium f.message), d)
  | .ok () =>
    let short := (d.path.drop d.made).takeWhile isShort
    let d := { d with made := d.made + short.length }
    (if d.made < d.path.length then .error (.medium Fault.nameTooLong.message) else .ok (), d)

/-- What a name stands for, if the file system can look it up. -/
def lookUp (d : Disk) (name : String) : Except Fault (Option Entry) :=
  match checkPath (d.path ++ [name]), d.path.drop d.made with
  | .error f, _ => .error f
  | .ok (), folder :: _ => if isShort folder then .error .missing else .error .nameTooLong
  | .ok (), [] => if isShort name then .ok (d.entries.find? name) else .error .nameTooLong

/-- The bytes of a node. -/
def bytesOf (d : Disk) (node : Nat) : Bytes := (d.contents.find? node).getD ByteArray.empty

/-- Opens a file for writing, with nothing in it. -/
def create (d : Disk) (name : String) : Except Fault (Nat × Disk) :=
  match d.lookUp name with
  | .error f => .error f
  | .ok (some .folder) => .error .isFolder
  | .ok (some (.file node)) =>
    .ok (node, { d with contents := d.contents.insert node ByteArray.empty })
  | .ok none =>
    .ok (d.nextNode, { d with
      entries := d.entries.insert name (.file d.nextNode)
      contents := d.contents.insert d.nextNode ByteArray.empty
      nextNode := d.nextNode + 1 })

/-- Bytes with a piece written over them at an offset; a gap before it is filled with zeros. -/
def overwritten (bytes : Bytes) (offset : Nat) (piece : Bytes) : Bytes :=
  bytes.extract 0 offset ++ ByteArray.mk (Array.replicate (offset - bytes.size) 0) ++ piece ++
    bytes.extract (offset + piece.size) bytes.size

/-- Writes a piece through an open file. -/
def writeAt (d : Disk) (node offset : Nat) (piece : Bytes) : Disk :=
  { d with contents := d.contents.insert node (overwritten (d.bytesOf node) offset piece) }

/-- The folder without a name. -/
private def without (d : Disk) (name : String) : Disk :=
  { d with entries := d.entries.filter fun (n, _) => n ≠ name }

/-- Gives a file another name, in the place of a file that may have it. -/
def rename (d : Disk) (source target : String) : Except Fault Disk :=
  match d.lookUp source, d.lookUp target with
  | .error f, _ => .error f
  | _, .error f => .error f
  | .ok none, .ok _ => .error .missing
  | .ok (some _), .ok (some .folder) => .error .isFolder
  | .ok (some entry), .ok _ =>
    let d := d.without source
    .ok { d with entries := d.entries.insert target entry }

/-- The bytes of a file. -/
def read (d : Disk) (name : String) : Except Fault Bytes :=
  match d.lookUp name with
  | .error f => .error f
  | .ok none => .error .missing
  | .ok (some .folder) => .error .isFolder
  | .ok (some (.file node)) => .ok (d.bytesOf node)

/-- Makes a folder in the folder, with what its path names below it. -/
def addFolder (d : Disk) (path : String) : Disk :=
  let (result, d) := d.ensure
  match result, folders path with
  | .ok (), name :: _ =>
    if d.entries.has name then d else { d with entries := d.entries.insert name .folder }
  | _, _ => d

/-- The names in the folder. -/
def names (d : Disk) : List String := d.entries.keys

/-! ## Putting a blob -/

/-- The name under which a blob is written before it is complete. -/
def temporaryName (name : String) : String := name ++ ".tmp"

/-- A put under way. -/
inductive Put where
  | opening (name : String) (bytes : Bytes)
  /-- so many bytes are written through the open file, the others are left -/
  | writing (name : String) (node written : Nat) (left : Bytes)
  | renaming (name : String)
  | ended (result : Except Blob.Error Unit)

/-- A put that begins; a bad name or too many bytes end it at once. -/
def Put.start (d : Disk) (name : String) (bytes : Bytes) : Put :=
  match Blob.checkName name with
  | .error e => .ended (.error e)
  | .ok () =>
    if d.sizeLimit < bytes.size then .ended (.error (.tooLarge bytes.size d.sizeLimit))
    else .opening name bytes

/-- The next step of a put; a writing step writes at most `amount` bytes. -/
def Put.step (amount : Nat) (d : Disk) : Put → Put × Disk
  | .opening name bytes =>
    match d.create (temporaryName name) with
    | .error f => (.ended (.error (.medium f.message)), d)
    | .ok (node, d) => (.writing name node 0 bytes, d)
  | .writing name node written left =>
    if left.isEmpty then (.renaming name, d)
    else
      let piece := left.extract 0 amount
      (.writing name node (written + piece.size) (left.extract piece.size left.size),
        d.writeAt node written piece)
  | .renaming name =>
    match d.rename (temporaryName name) name with
    | .error f => (.ended (.error (.medium f.message)), d)
    | .ok d => (.ended (.ok ()), d)
  | .ended result => (.ended result, d)

/-- A put that takes a number of steps, each of which writes all that is left. -/
def Put.run : Nat → Put × Disk → Put × Disk
  | 0, s => s
  | n + 1, (p, d) =>
    let amount := match p with
      | .writing _ _ _ left => left.size
      | _ => 0
    run n (p.step amount d)

/-- Stores a blob: the file is opened, written, closed and renamed. -/
def put (d : Disk) (name : String) (bytes : Bytes) : Except Blob.Error Unit × Disk :=
  match Put.run 4 (Put.start d name bytes, d) with
  | (.ended result, d) => (result, d)
  | (_, d) => (.ok (), d)

/-- The blob of a name. -/
def get (d : Disk) (name : String) : Except Blob.Error Bytes :=
  match Blob.checkName name with
  | .error e => .error e
  | .ok () =>
    match d.read name with
    | .ok bytes => .ok bytes
    | .error .missing => .error (.notFound name)
    | .error f => .error (.medium f.message)

/-- Whether there is anything of a name. -/
def has (d : Disk) (name : String) : Except Blob.Error Bool :=
  match Blob.checkName name with
  | .error e => .error e
  | .ok () =>
    match d.lookUp name with
    | .ok entry => .ok entry.isSome
    | .error .missing => .ok false
    | .error f => .error (.medium f.message)

end Disk

end BookingNotices
