import ShadowGate.Settings.Environment

/-!
# Environment files

A file of lines `NAME=value` that adds variables to the environment. A variable that is set
already keeps its value.

* `logicalLines` — a quote that is open at the end of a line joins the next line to it; a comment
  starts with `#` at the front of a line or after a blank.
* `Line.parse` — an optional `export`, a name, `=`, and a value.
* `Value.scan` — a value: plain text, text between single quotes taken as it stands, and text
  between double quotes. A backslash escapes, and `$NAME` or `$` with a name in braces is replaced
  by the variable's value.
* Reading stops at the first line that is not of this form; the lines before it count.
-/

namespace ShadowGate.EnvironmentFile

/-! ## Logical lines -/

/-- What a line has open at some point. -/
inductive Joint where
  /-- nothing -/
  | closed
  /-- nothing, and a blank was last -/
  | blank
  /-- an escape -/
  | escape
  /-- single quotes -/
  | single
  /-- an escape between single quotes -/
  | singleEscape
  /-- double quotes -/
  | double
  /-- an escape between double quotes -/
  | doubleEscape
deriving DecidableEq, Repr

namespace Joint

/-- What is open after a character that starts something new. -/
def opening (c : Char) : Joint :=
  if c = '\\' then escape
  else if c = '"' then double
  else if c = '\x27' then single
  else closed

/-- What is open after one more character. -/
def next (j : Joint) (c : Char) : Joint :=
  match j with
  | closed => if Text.isBlank c && c != '\n' && c != '\r' then blank else opening c
  | blank => opening c
  | escape => closed
  | double => if c = '\\' then doubleEscape else if c = '"' then closed else double
  | doubleEscape => double
  | single => if c = '\\' then singleEscape else if c = '\x27' then closed else single
  | singleEscape => single

end Joint

/-- The characters of a line up to a comment, whether there is one, and what is open at the end. -/
def scanLine (j : Joint) : List Char → List Char × Bool × Joint
  | [] => ([], false, j)
  | c :: rest =>
    if j = .blank && c = '#' then ([], true, j)
    else
      let (kept, comment, last) := scanLine (j.next c) rest
      (c :: kept, comment, last)

/-- A line without the line end. -/
def dropLineEnd (cs : List Char) : List Char :=
  match cs.reverse with
  | '\n' :: '\r' :: rest => rest.reverse
  | '\n' :: rest => rest.reverse
  | _ => cs

/-- Lines, each with its line end. -/
def physicalLines : List Char → List (List Char)
  | [] => []
  | '\n' :: rest => ['\n'] :: physicalLines rest
  | c :: rest =>
    match physicalLines rest, rest with
    | line :: lines, _ :: _ => (c :: line) :: lines
    | lines, _ => [c] :: lines

/-- Join lines where something is open; `none` stands for a line that is never closed. -/
def joinLines (j : Joint) (before : List Char) : List (List Char) → List (Option (List Char))
  | [] => if j = .closed then [] else [none]
  | line :: rest =>
    let (kept, comment, last) := scanLine j line
    if ((before ++ line).dropWhile Text.isBlank).head? = some '#' then
      some [] :: joinLines .closed [] rest
    else if comment then some (before ++ kept) :: joinLines .closed [] rest
    else if last = .closed then some (dropLineEnd (before ++ line)) :: joinLines .closed [] rest
    else joinLines last (before ++ line) rest

/-- The lines of a text, joined where something is open. -/
def logicalLines (text : List Char) : List (Option (List Char)) :=
  joinLines .closed [] (physicalLines text)

/-! ## Values -/

/-- A reference to a variable that is being read, with its name so far. -/
inductive Reference where
  /-- none -/
  | absent
  /-- after `$` -/
  | bare (name : List Char)
  /-- after `$` and a brace -/
  | braced (name : List Char)
deriving DecidableEq, Repr

/-- How far a value is read. -/
structure Scan where
  /-- the value so far -/
  value : List Char := []
  /-- between single quotes -/
  single : Bool := false
  /-- between double quotes -/
  double : Bool := false
  /-- after a backslash -/
  escaped : Bool := false
  /-- a blank ended the value -/
  ended : Bool := false
  /-- in a comment -/
  comment : Bool := false
  /-- the reference that is being read -/
  reference : Reference := .absent

namespace Scan

/-- Add characters to the value. -/
def add (s : Scan) (cs : List Char) : Scan := { s with value := s.value ++ cs }

/-- What an escaped character stands for. -/
def escape? (c : Char) : Option Char :=
  if c = 'n' then some '\n'
  else if ['\\', '\x27', '"', '$', ' '].contains c then some c
  else none

/-- One more character of a reference. -/
def refer (look : List Char → List Char) (s : Scan) (c : Char) : Scan :=
  match s.reference with
  | .absent => s
  | .bare name =>
    if Text.isWordChar c then { s with reference := .bare (name ++ [c]) }
    else if c = '\x7b' && name.isEmpty then { s with reference := .braced [] }
    else
      let s := s.add (look name)
      if c = '$' then { s with reference := .bare [] }
      else { s.add [c] with reference := .absent }
  | .braced name =>
    if c = '\x7d' then { s.add (look name) with reference := .absent }
    else { s with reference := .braced (name ++ [c]) }

/-- One more character outside references, escapes and single quotes. -/
def plain (s : Scan) (c : Char) : Scan :=
  if c = '$' then { s with reference := .bare [] }
  else if c = '\\' then { s with escaped := true }
  else if s.double then
    if c = '"' then { s with double := false } else s.add [c]
  else if c = '\x27' then { s with single := true }
  else if c = '"' then { s with double := true }
  else if c = ' ' || c = '\t' then { s with ended := true }
  else s.add [c]

/-- One more character, given the values of variables. -/
def step (look : List Char → List Char) (s : Scan) (c : Char) : Option Scan :=
  if s.comment then some s
  else if s.ended then
    if c = ' ' || c = '\t' then some s
    else if c = '#' then some { s with comment := true }
    else none
  else if s.escaped then (escape? c).map fun c => { s.add [c] with escaped := false }
  else if s.single then
    some (if c = '\x27' then { s with single := false } else s.add [c])
  else if s.reference ≠ .absent then some (s.refer look c)
  else some (s.plain c)

/-- The value, if nothing that must be closed is open. -/
def finish (look : List Char → List Char) (s : Scan) : Option (List Char) :=
  if s.single || s.double then none
  else
    match s.reference with
    | .absent => some s.value
    | .bare name => some (s.value ++ look name)
    | .braced _ => none

end Scan

/-- The value that characters spell, given the values of variables. -/
def value? (look : List Char → List Char) (cs : List Char) : Option (List Char) := do
  let s ← cs.foldlM (Scan.step look) {}
  s.finish look

/-! ## Lines -/

/-- The name at the front of a line, and what follows. -/
def name? (cs : List Char) : Option (List Char × List Char) :=
  match cs with
  | c :: _ =>
    let inName (c : Char) : Bool := c.isAlphanum || c = '_' || c = '.'
    if c.isAlpha || c = '_' then some (cs.takeWhile inName, cs.dropWhile inName) else none
  | [] => none

/-- What follows the equals sign at the front, blanks skipped. -/
def afterEquals? : List Char → Option (List Char)
  | '=' :: rest => some (rest.dropWhile Text.isBlank)
  | _ => none

/-- The name that a line assigns to, and the characters of its value. -/
def target? (cs : List Char) : Option (List Char × List Char) := do
  let (name, rest) ← name? cs
  let rest := rest.dropWhile Text.isBlank
  match afterEquals? rest with
  | some value => pure (name, value)
  | none =>
    if name = "export".toList then
      let (name, rest) ← name? rest
      let value ← afterEquals? (rest.dropWhile Text.isBlank)
      pure (name, value)
    else none

/-- A line without blanks at its ends. -/
def bareLine (cs : List Char) : List Char := Text.trimChars cs

/-- Whether a line or a value holds nothing but a comment. -/
def isVoid (cs : List Char) : Bool := cs.isEmpty || cs.head? = some '#'

/-! ## Files -/

/-- The environment and the values that lines have given so far, whether or not they took hold. -/
structure Progress where
  /-- the environment -/
  environment : Environment
  /-- the values of the lines, the latest first -/
  given : Environment := []

namespace Progress

/-- The value that a reference stands for. -/
def look (p : Progress) (name : List Char) : List Char :=
  let name := String.ofList name
  match p.environment.get? name with
  | some v => v.toList
  | none => ((p.given.lookup name).getD "").toList

/-- A variable is given a value; one that is set keeps the value it has. -/
def give (p : Progress) (name value : List Char) : Progress :=
  let name := String.ofList name
  let value := String.ofList value
  { environment :=
      if (p.environment.get? name).isSome then p.environment else p.environment ++ [(name, value)]
    given := (name, value) :: p.given }

/-- The progress that one line makes; `none` for a line that is not well-formed. -/
def line? (p : Progress) (cs : List Char) : Option Progress :=
  let cs := bareLine cs
  if isVoid cs then some p
  else do
    let (name, rest) ← target? cs
    if isVoid rest then pure (p.give name [])
    else
      let value ← value? p.look rest
      pure (p.give name value)

/-- The progress that lines make up to the first that is not well-formed. -/
def lines (p : Progress) : List (Option (List Char)) → Progress
  | [] => p
  | none :: _ => p
  | some line :: rest =>
    match p.line? line with
    | some p => p.lines rest
    | none => p

end Progress

/-- **The environment after reading a file.** -/
def load (env : Environment) (text : String) : Environment :=
  let cs :=
    match text.toList with
    | '\ufeff' :: rest => rest
    | cs => cs
  (Progress.lines { environment := env } (logicalLines cs)).environment

end ShadowGate.EnvironmentFile
