import ShadowGate.Tree

/-!
# Digests of trees

A digest is a 64-bit SipHash of a byte stream, with one compression round per word, three final
rounds and a zero key. What a digest is taken of is the stream:

* a count or a length — eight bytes, the low one first;
* a byte sequence — its length, then its bytes;
* a name — its UTF-8 bytes, then the byte `0xff`, which no UTF-8 text contains.

`treeStream` is the records in key order and then their number; `recordsStream` has the number
first, so that several trees can follow one another.
-/

namespace ShadowGate.Digest

/-! ## The stream -/

/-- A number in eight bytes, the low one first. -/
def wordBytes (n : Nat) : Bytes :=
  (List.range 8).map fun i => UInt8.ofNat (n / Number.twoTo (8 * i))

/-- A byte sequence after its length. -/
def framed (bytes : Bytes) : Bytes := wordBytes bytes.length ++ bytes

/-- A name and its end mark. -/
def nameBytes (name : String) : Bytes := Text.toBytes name ++ [0xff]

/-- One record: key, then value. -/
def recordBytes (r : Bytes × Bytes) : Bytes := framed r.1 ++ framed r.2

/-- The stream of a tree: its records, then how many they are. -/
def treeStream (t : Tree) : Bytes := t.toList.flatMap recordBytes ++ wordBytes t.size

/-- The stream of a tree among others: how many records, then the records. -/
def recordsStream (t : Tree) : Bytes := wordBytes t.size ++ t.toList.flatMap recordBytes

/-! ## The hash -/

/-- The four words of the hash's state. -/
structure Lanes where
  /-- first word -/
  a : UInt64
  /-- second word -/
  b : UInt64
  /-- third word -/
  c : UInt64
  /-- fourth word -/
  d : UInt64

/-- Rotate a word to the left. -/
def rotate (x : UInt64) (n : UInt64) : UInt64 := (x <<< n) ||| (x >>> (64 - n))

/-- One round of mixing. -/
def Lanes.round (s : Lanes) : Lanes :=
  let a := s.a + s.b
  let b := rotate s.b 13 ^^^ a
  let a := rotate a 32
  let c := s.c + s.d
  let d := rotate s.d 16 ^^^ c
  let a := a + d
  let d := rotate d 21 ^^^ a
  let c := c + b
  let b := rotate b 17 ^^^ c
  let c := rotate c 32
  ⟨a, b, c, d⟩

/-- Mix one word in. -/
def Lanes.absorb (s : Lanes) (m : UInt64) : Lanes :=
  let s := Lanes.round { s with d := s.d ^^^ m }
  { s with a := s.a ^^^ m }

/-- The initial state under the zero key. -/
def Lanes.start : Lanes :=
  ⟨0x736f6d6570736575, 0x646f72616e646f6d, 0x6c7967656e657261, 0x7465646279746573⟩

/-- The word of at most eight bytes, the low one first. -/
def wordOf (bytes : Bytes) : UInt64 :=
  bytes.foldr (fun b acc => (acc <<< 8) ||| b.toUInt64) 0

/-- The last word: the bytes left over, and the length of the whole in the high byte. -/
def lastWord (length : Nat) (bytes : Bytes) : UInt64 :=
  wordOf bytes ||| (UInt64.ofNat length <<< 56)

/-- Absorb a stream of the given total length. -/
def absorbAll (length : Nat) : Lanes → Bytes → Lanes
  | s, b0 :: b1 :: b2 :: b3 :: b4 :: b5 :: b6 :: b7 :: rest =>
    absorbAll length (s.absorb (wordOf [b0, b1, b2, b3, b4, b5, b6, b7])) rest
  | s, left => s.absorb (lastWord length left)

/-- The final rounds. -/
def Lanes.finish (s : Lanes) : UInt64 :=
  let s := Lanes.round (Lanes.round (Lanes.round { s with c := s.c ^^^ 0xff }))
  s.a ^^^ s.b ^^^ s.c ^^^ s.d

/-- The 64-bit hash of a stream. -/
def hash (stream : Bytes) : UInt64 := (absorbAll stream.length Lanes.start stream).finish

/-- A hash in sixteen hexadecimal digits. -/
def text (stream : Bytes) : String := String.ofList (Text.hexDigits 16 (hash stream).toNat)

/-- **The digest of a tree.** -/
def ofTree (t : Tree) : String := text (treeStream t)

end ShadowGate.Digest
