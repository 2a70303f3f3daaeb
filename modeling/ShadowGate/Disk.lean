import ShadowGate.Path
import ShadowGate.Store

/-!
# Disks

What a run of the program finds and leaves: directories, files, and stores in directories.

* `Disk.walk` — where a path leads. Every part of a path is taken in a directory that is there;
  a file or nothing in its place is an **obstacle**, also to a part that leads nowhere.
* `Disk.text?` — the text of a file.
* `Disk.makeDirectories` — make a directory and those that lead to it. Those that were made before
  an obstacle was met stay.
* `Disk.openStore` — the store in a directory, made if there is none yet.
-/

namespace ShadowGate

/-- What there is at a place. -/
inductive Entry where
  /-- a directory -/
  | directory
  /-- a file with a text -/
  | text (content : String)
  /-- anything else -/
  | data
deriving DecidableEq

/-- What keeps a path from leading to its end. -/
inductive Obstacle where
  /-- nothing is there -/
  | missing
  /-- what is there is no directory -/
  | notDirectory
  /-- what is there is a directory -/
  | directory
  /-- a directory cannot be made because something is there -/
  | occupied
  /-- a name that is too long -/
  | longName
  /-- a name that no place can have -/
  | badName
deriving DecidableEq

/-- The wording of an obstacle. -/
def Obstacle.message : Obstacle → String
  | missing => "No such file or directory (os error 2)"
  | notDirectory => "Not a directory (os error 20)"
  | directory => "Is a directory (os error 21)"
  | occupied => "File exists (os error 17)"
  | longName => "File name too long (os error 36)"
  | badName => "file name contained an unexpected NUL byte"

/-- Places and what is there. -/
structure Disk where
  /-- directories and files; other places are empty -/
  entries : SortedMap Place Entry := ∅
  /-- the stores in directories -/
  stores : SortedMap Place Store := ∅
deriving Inhabited

namespace Disk

/-- A disk with nothing on it but the device that swallows everything. -/
def fresh : Disk where
  entries := SortedMap.ofList [(["dev", "/"], .directory), (["null", "dev", "/"], .data)]

/-! ## Going -/

/-- What there is at a place. -/
def entry? (d : Disk) (place : Place) : Option Entry :=
  if place.isAbove then some .directory else d.entries.get? place

/-- How many bytes a name may have. -/
def nameLimit : Nat := 255

/-- Take one part of a path. -/
def step (d : Disk) (place : Place) (part : String) : Except Obstacle Place :=
  match d.entry? place with
  | none => .error .missing
  | some .directory =>
    if Path.isStill part then .ok place
    else if part = ".." then .ok place.up
    else if nameLimit < part.utf8ByteSize then .error .longName
    else .ok (part :: place)
  | some _ => .error .notDirectory

/-- **Where a path leads**; there need not be anything there. -/
def walk (d : Disk) (p : Path) : Except Obstacle Place := p.parts.foldlM d.step p.start

/-- What there is where a path leads. -/
def find? (d : Disk) (p : Path) : Option Entry :=
  match d.walk p with
  | .ok place => d.entry? place
  | .error _ => none

/-- Whether a path leads to a directory. -/
def isDirectory (d : Disk) (p : Path) : Bool := d.find? p == some .directory

/-- Whether a path leads to a file. -/
def isFile (d : Disk) (p : Path) : Bool :=
  match d.find? p with
  | none => false
  | some .directory => false
  | some _ => true

/-- The text of the file that a path leads to. -/
def textAt? (d : Disk) (p : Path) : Option String :=
  match d.find? p with
  | some (.text content) => some content
  | _ => none

/-- The text of a file. -/
def text? (d : Disk) (path : String) : Option String := d.textAt? (Path.ofText path)

/-! ## Making -/

/-- Put something at a place. -/
def put (d : Disk) (place : Place) (e : Entry) : Disk :=
  { d with entries := d.entries.insert place e }

/-- Whether a name is one that no place can have. -/
def isBadName (name : String) : Bool := name.toList.contains '\x00'

/-- Make the directory that a path leads to, if nothing is there. Empty parts at the end do not
count. -/
def makeNew (d : Disk) (p : Path) : Except Obstacle Disk :=
  if p.parts.any isBadName then .error .badName
  else
    match p.parts.reverse.dropWhile (· == "") with
    | [] => .error .occupied
    | last :: before => do
      let place ← d.walk { p with parts := before.reverse }
      let place ← d.step place last
      if last = "." || last = ".." || (d.entry? place).isSome then .error .occupied
      else .ok (d.put place .directory)

/-- Make the directory that a path leads to, unless it is there. -/
def makeDirectory (d : Disk) (p : Path) : Except Obstacle Disk :=
  match d.makeNew p with
  | .ok d => .ok d
  | .error o => if d.isDirectory p then .ok d else .error o

/-- Whether a directory cannot be made because one that leads to it is missing. -/
def lacksParent (d : Disk) (p : Path) : Bool :=
  match d.makeDirectory p with
  | .error .missing => true
  | _ => false

/-- Make a directory after those that lead to it. -/
def andMake (p : Path) : Except Obstacle Unit × Disk → Except Obstacle Unit × Disk
  | (.ok (), d) =>
    match d.makeDirectory p with
    | .ok d => (.ok (), d)
    | .error o => (.error o, d)
  | failed => failed

/-- Make the directory that parts lead to, given with the last one first, and those before it. -/
def makeParts (d : Disk) (start : Place) : List String → Except Obstacle Unit × Disk
  | [] => (.ok (), d)
  | part :: before =>
    if Path.isStill part then d.makeParts start before
    else
      let p : Path := { start, parts := (part :: before).reverse }
      andMake p (if d.lacksParent p then d.makeParts start before else (.ok (), d))

/-- **Make a directory and those that lead to it**, as far as they are not there. A point at the end
of the path asks for the directory before it to be there already. -/
def makeDirectories (d : Disk) (p : Path) : Except Obstacle Unit × Disk :=
  andMake p (if d.lacksParent p then d.makeParts p.start p.partsUp.tail else (.ok (), d))

/-- Write a file, making the directories that lead to it; an obstacle leaves the disk as it is. -/
def write (d : Disk) (path text : String) : Disk :=
  let p := Path.ofText path
  match p.parts.reverse with
  | [] => d
  | name :: before =>
    let made := (d.makeParts p.start before).2
    match made.walk { p with parts := before.reverse } with
    | .ok place => made.put (name :: place) (.text text)
    | .error _ => d

/-! ## Stores -/

/-- The store at a place; it is empty where none has been kept. -/
def storeAt (d : Disk) (place : Place) : Store := (d.stores.get? place).getD {}

/-- Keep a store at a place. -/
def keep (d : Disk) (place : Place) (s : Store) : Disk :=
  { d with stores := d.stores.insert place s }

/-- The directory that is in the directory of every store. -/
def blobsName : String := "blobs"

/-- The files that are in the directory of every store. -/
def dataNames : List String := ["conf", "db"]

/-- Make the directory of a store. -/
def makeStore (d : Disk) (p : Path) : Except Obstacle Unit × Disk :=
  let blobs := p.child blobsName
  if (d.find? blobs).isSome then (.ok (), d) else d.makeDirectories blobs

/-- The place of a store whose directory is there. -/
def storePlace (d : Disk) (p : Path) : Except Obstacle Place :=
  if dataNames.any fun name => d.isDirectory (p.child name) then .error .directory else d.walk p

/-- **Open the store in a directory**, making it if there is none: the place where it is kept and
what it holds. -/
def openStore (d : Disk) (path : String) : Except StoreError (Place × Store) × Disk :=
  let p := Path.ofText path
  match d.makeStore p with
  | (.error o, d) => (.error (.storage o.message), d)
  | (.ok (), d) =>
    match d.storePlace p with
    | .error o => (.error (.storage o.message), d)
    | .ok place =>
      (.ok (place, { d.storeAt place with path := some path }),
        dataNames.foldl (fun d name => d.put (name :: place) .data) d)

/-! ### Stores are left alone by everything but `keep` -/

@[simp] theorem stores_put (d : Disk) (place : Place) (e : Entry) :
    (d.put place e).stores = d.stores := rfl

end Disk

end ShadowGate
