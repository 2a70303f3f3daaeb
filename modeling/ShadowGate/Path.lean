import ShadowGate.Text.Class

/-!
# Paths and places

A **path** is a way to go: a start, and parts to be taken one after the other. A **place** is where
one may arrive; each place has one name, whatever path leads to it.

* `Path.ofText` — the parts of a text between slashes, empty ones included.
* `Path.isStill` — a part that leads nowhere: an empty one, or a point.
* `Place.up` — what two points lead to.
-/

namespace ShadowGate

/-- A place on a disk: the names that lead to it from the working directory, the last one first.
Directories above the working directory are named by `..` alone, and names that start at the root
are followed by `/`. -/
abbrev Place : Type := List String

namespace Place

/-- The working directory. -/
def here : Place := []

/-- The root of the disk. -/
def root : Place := ["/"]

/-- The place one up; the root is above itself. -/
def up : Place → Place
  | [] => [".."]
  | name :: rest =>
    if name = ".." then ".." :: name :: rest
    else if name = "/" then name :: rest
    else rest

/-- Whether a place is sure to be a directory: the root, the working directory, and what is above
it. -/
def isAbove (p : Place) : Bool := p == root || p.all (· == "..")

/-- A path to a place. -/
def text (p : Place) : String :=
  match p.reverse with
  | [] => "."
  | "/" :: names => "/" ++ String.intercalate "/" names
  | names => String.intercalate "/" names

end Place

/-- A way to go. -/
structure Path where
  /-- where it starts -/
  start : Place := Place.here
  /-- the parts that are taken one after the other -/
  parts : List String
deriving DecidableEq

namespace Path

/-- The path that a text spells. -/
def ofText (s : String) : Path where
  start := if s.toList.head? = some '/' then Place.root else Place.here
  parts := (Text.pieces (· != '/') s.toList).map String.ofList

/-- The text that spells a path. -/
def text (p : Path) : String := String.intercalate "/" p.parts

/-- A path with one more part. -/
def child (p : Path) (name : String) : Path := { p with parts := p.parts ++ [name] }

/-- Whether a part leads nowhere. -/
def isStill (part : String) : Bool := part == "" || part == "."

/-- The parts of a path, the last one first, without those at the end that lead nowhere. -/
def partsUp (p : Path) : List String := p.parts.reverse.dropWhile isStill

/-- The path beside a path whose last name has this ending too; there is none if the path leads up
or nowhere. -/
def withEnding? (p : Path) (ending : String) : Option Path :=
  match p.partsUp with
  | [] => none
  | name :: before =>
    if name = ".." then none
    else some { p with parts := before.reverse ++ [name ++ ending] }

end Path

end ShadowGate
