import Mathlib.Data.Nat.Digits.Defs
import ShadowGate.Proofs.Codec.ShadowId
import ShadowGate.Snapshot

/-!
# What a digest is taken of

A digest is a hash of a stream of bytes, so two contents have the same digest if their streams are
the same, or if the hash fails to tell two streams apart. The first never happens to different
contents: a stream can be taken apart in one way only. What makes this so differs from part to part.
A byte sequence has its length in front and a name an end mark that no name contains; several
records are as many as the number in front of them says, and where the number comes last, it is
shorter than any record.

* `Digest.SelfDelimiting` — **a code word shows where it ends**, whatever follows it. So do numbers,
  byte sequences, names and records, and `Digest.selfDelimiting_recordsStream` says that the records
  of a tree after their number do.
* `Digest.SelfDelimiting.flatMap_short` — code words one after another can be told apart if the rest
  is shorter than any of them.
* `Digest.Collision` — the hash fails to tell two streams apart.
* `Digest.stream_determines_content` — the theorem.
-/

namespace ShadowGate

namespace Digest

variable {α β : Type} {p : α → Prop} {q : β → Prop} {code : α → Bytes} {code' : β → Bytes}

/-! ## Codes that show where they end -/

/-- **A code word shows where it ends**: streams that open with two of them, for values in range,
are the same only if the values are and if the streams go on in the same way. -/
def SelfDelimiting (p : α → Prop) (code : α → Bytes) : Prop :=
  ∀ ⦃a b : α⦄, p a → p b → ∀ ⦃x y : Bytes⦄, code a ++ x = code b ++ y → a = b ∧ x = y

namespace SelfDelimiting

/-- Two code words, one after the other. -/
theorem pair (h : SelfDelimiting p code) (h' : SelfDelimiting q code') :
    SelfDelimiting (fun r : α × β => p r.1 ∧ q r.2) fun r => code r.1 ++ code' r.2 := by
  intro a b ha hb x y heq
  rw [List.append_assoc, List.append_assoc] at heq
  obtain ⟨hfirst, hrest⟩ := h ha.1 hb.1 heq
  obtain ⟨hsecond, htail⟩ := h' ha.2 hb.2 hrest
  exact ⟨Prod.ext hfirst hsecond, htail⟩

/-- **Code words one after another** are told apart until one side has none left. The induction goes
through both lists at once. -/
theorem flatMap_cases (h : SelfDelimiting p code) {as bs : List α} (has : ∀ a ∈ as, p a)
    (hbs : ∀ b ∈ bs, p b) {x y : Bytes} (heq : as.flatMap code ++ x = bs.flatMap code ++ y) :
    (∃ rest, bs = as ++ rest ∧ x = rest.flatMap code ++ y) ∨
      ∃ rest, as = bs ++ rest ∧ y = rest.flatMap code ++ x := by
  induction as generalizing bs with
  | nil => exact .inl ⟨bs, rfl, heq⟩
  | cons a as ih =>
    cases bs with
    | nil => exact .inr ⟨a :: as, rfl, heq.symm⟩
    | cons b bs =>
      rw [List.flatMap_cons, List.flatMap_cons, List.append_assoc, List.append_assoc] at heq
      obtain ⟨rfl, hrest⟩ := h (has a List.mem_cons_self) (hbs b List.mem_cons_self) heq
      rcases ih (fun c hc => has c (List.mem_cons_of_mem _ hc))
        (fun c hc => hbs c (List.mem_cons_of_mem _ hc)) hrest with
        ⟨rest, rfl, hx⟩ | ⟨rest, rfl, hy⟩
      · exact .inl ⟨rest, rfl, hx⟩
      · exact .inr ⟨rest, rfl, hy⟩

/-- As many code words on either side. -/
theorem flatMap_of_length_eq (h : SelfDelimiting p code) {as bs : List α} (has : ∀ a ∈ as, p a)
    (hbs : ∀ b ∈ bs, p b) (hlength : as.length = bs.length) {x y : Bytes}
    (heq : as.flatMap code ++ x = bs.flatMap code ++ y) : as = bs ∧ x = y := by
  rcases h.flatMap_cases has hbs heq with ⟨rest, rfl, rfl⟩ | ⟨rest, rfl, rfl⟩
  · obtain rfl : rest = [] := List.length_eq_zero_iff.mp (by simpa using hlength)
    simp
  · obtain rfl : rest = [] := List.length_eq_zero_iff.mp (by simpa using hlength)
    simp

/-- **Code words before a rest that is shorter than any of them**, however many they are: a rest
that held another word would be too long. -/
theorem flatMap_short (h : SelfDelimiting p code) {limit : Nat}
    (hlong : ∀ a, limit < (code a).length) {as bs : List α} (has : ∀ a ∈ as, p a)
    (hbs : ∀ b ∈ bs, p b) {x y : Bytes} (hx : x.length ≤ limit) (hy : y.length ≤ limit)
    (heq : as.flatMap code ++ x = bs.flatMap code ++ y) : as = bs ∧ x = y := by
  have hnone : ∀ (rest : List α) (z : Bytes), (rest.flatMap code ++ z).length ≤ limit →
      rest = [] := by
    intro rest z hz
    cases rest with
    | nil => rfl
    | cons a rest =>
      have hword := hlong a
      simp only [List.flatMap_cons, List.length_append] at hz
      omega
  rcases h.flatMap_cases has hbs heq with ⟨rest, rfl, rfl⟩ | ⟨rest, rfl, rfl⟩
  · obtain rfl := hnone rest y hx
    simp
  · obtain rfl := hnone rest x hy
    simp

end SelfDelimiting

/-! ## Numbers and byte sequences -/

@[simp] theorem length_wordBytes (n : Nat) : (wordBytes n).length = 8 := by simp [wordBytes]

/-- The low digits of a number in base 256, the lowest first. -/
theorem ofDigits_low (n width : Nat) :
    Nat.ofDigits 256 ((List.range width).map fun i => n / 256 ^ i % 256) = n % 256 ^ width := by
  induction width with
  | zero => simp [Nat.mod_one]
  | succ width ih =>
    rw [List.range_succ, List.map_append, Nat.ofDigits_append, ih, List.length_map,
      List.length_range, Nat.mod_pow_succ]
    simp

/-- **Eight bytes spell a number** in base 256, the lowest digit first. -/
theorem ofDigits_wordBytes (n : Nat) :
    Nat.ofDigits 256 ((wordBytes n).map UInt8.toNat) = n % 2 ^ 64 := by
  have hdigits : (wordBytes n).map UInt8.toNat = (List.range 8).map fun i => n / 256 ^ i % 256 := by
    rw [wordBytes, List.map_map]
    refine List.map_congr_left fun i _ => ?_
    have hpower : Number.twoTo (8 * i) = 256 ^ i := Nat.pow_mul 2 8 i
    rw [Function.comp_apply, UInt8.toNat_ofNat', hpower]
  rw [hdigits, ofDigits_low, ← Nat.pow_mul 2 8 8]

theorem selfDelimiting_wordBytes : SelfDelimiting (· < 2 ^ 64) wordBytes := by
  intro m n hm hn x y heq
  obtain ⟨hword, hrest⟩ := List.append_inj heq (by simp)
  refine ⟨?_, hrest⟩
  rw [← Nat.mod_eq_of_lt hm, ← ofDigits_wordBytes, hword, ofDigits_wordBytes, Nat.mod_eq_of_lt hn]

/-- A length of eight bytes in front of a byte sequence shows where it ends. -/
theorem selfDelimiting_framed : SelfDelimiting (fun bytes => bytes.length < 2 ^ 64) framed := by
  intro a b ha hb x y heq
  rw [framed, framed, List.append_assoc, List.append_assoc] at heq
  obtain ⟨hlength, hrest⟩ := selfDelimiting_wordBytes ha hb heq
  exact List.append_inj hrest hlength

/-- Key and value are short enough for their lengths to be told. -/
def InRange (r : Bytes × Bytes) : Prop := r.1.length < 2 ^ 64 ∧ r.2.length < 2 ^ 64

instance : DecidablePred InRange := fun _ => inferInstanceAs (Decidable (_ ∧ _))

theorem selfDelimiting_recordBytes : SelfDelimiting InRange recordBytes :=
  selfDelimiting_framed.pair selfDelimiting_framed

theorem lt_length_recordBytes (r : Bytes × Bytes) : 8 < (recordBytes r).length := by
  simp only [recordBytes, framed, List.length_append, length_wordBytes]
  omega

/-! ## Names -/

/-- **The bytes of a character lie below `0xff`.** -/
theorem lt_ff_of_mem_utf8EncodeChar {c : Char} {byte : UInt8}
    (h : byte ∈ String.utf8EncodeChar c) : byte.toNat < 0xff := by
  -- one case for each number of bytes
  simp only [String.utf8EncodeChar] at h
  split_ifs at h <;> simp only [List.mem_cons, List.not_mem_nil, or_false] at h
  · rw [h, UInt8.toNat_ofNat']
    omega
  · rcases h with rfl | rfl <;> rw [UInt8.toNat_ofNat'] <;> omega
  · rcases h with rfl | rfl | rfl <;> rw [UInt8.toNat_ofNat'] <;> omega
  · rcases h with rfl | rfl | rfl | rfl <;> rw [UInt8.toNat_ofNat'] <;> omega

/-- **A name does not contain the end mark of names.** -/
theorem ff_not_mem_toBytes (s : String) : 0xff ∉ Text.toBytes s := by
  intro h
  have hbytes : Text.toBytes s = s.toList.flatMap String.utf8EncodeChar := by
    rw [Text.toBytes, ← String.utf8Encode_toList]
    simp [List.utf8Encode]
  rw [hbytes, List.mem_flatMap] at h
  obtain ⟨c, -, hc⟩ := h
  exact absurd (lt_ff_of_mem_utf8EncodeChar hc) (by decide)

/-- What stands before the first mark is told from what follows it. -/
theorem append_cons_inj {mark : UInt8} {a b x y : Bytes} (ha : mark ∉ a) (hb : mark ∉ b)
    (heq : a ++ mark :: x = b ++ mark :: y) : a = b ∧ x = y := by
  rcases List.append_eq_append_iff.mp heq with ⟨rest, rfl, hrest⟩ | ⟨rest, rfl, hrest⟩
  · cases rest with
    | nil => simpa using hrest
    | cons c rest =>
      obtain rfl := List.head_eq_of_cons_eq hrest
      exact absurd (List.mem_append_right a List.mem_cons_self) hb
  · cases rest with
    | nil => simpa using hrest.symm
    | cons c rest =>
      obtain rfl := List.head_eq_of_cons_eq hrest
      exact absurd (List.mem_append_right b List.mem_cons_self) ha

theorem selfDelimiting_nameBytes : SelfDelimiting (fun _ => True) nameBytes := by
  intro s t _ _ x y heq
  rw [nameBytes, nameBytes, List.append_assoc, List.append_assoc] at heq
  obtain ⟨hname, hrest⟩ := append_cons_inj (ff_not_mem_toBytes s) (ff_not_mem_toBytes t) heq
  exact ⟨Text.toBytes_injective hname, hrest⟩

end Digest

/-! ## Trees and snapshots -/

/-- A tree whose sizes can be told in eight bytes. -/
structure Tree.Fits (t : Tree) : Prop where
  /-- how many records it has -/
  size_lt : t.size < 2 ^ 64
  /-- how long their keys and values are -/
  inRange : ∀ r ∈ t.toList, Digest.InRange r

namespace Snapshot

/-- A snapshot all of whose trees have sizes that can be told in eight bytes. -/
structure Fits (s : Snapshot) : Prop where
  /-- the primary records -/
  records : s.records.Fits
  /-- every ancillary tree -/
  ancillary : ∀ named ∈ s.ancillary.toList, Tree.Fits named.2

/-- Two snapshots are copies of the same records, wherever these were taken from. -/
structure SameContent (a b : Snapshot) : Prop where
  /-- the primary records -/
  records : a.records = b.records
  /-- the ancillary trees -/
  ancillary : a.ancillary = b.ancillary

end Snapshot

namespace Digest

variable {s t : Tree} {a b : Snapshot} {x y : Bytes}

/-- **The records of a tree after their number** show where they end. -/
theorem selfDelimiting_recordsStream : SelfDelimiting Tree.Fits recordsStream := by
  intro s t hs ht x y heq
  rw [recordsStream, recordsStream, List.append_assoc, List.append_assoc] at heq
  obtain ⟨hsize, hrest⟩ := selfDelimiting_wordBytes hs.size_lt ht.size_lt heq
  obtain ⟨hlist, htail⟩ :=
    selfDelimiting_recordBytes.flatMap_of_length_eq hs.inRange ht.inRange hsize hrest
  exact ⟨SortedMap.ext_toList hlist, htail⟩

/-- An ancillary tree after its name, as it stands in the stream of a snapshot. -/
theorem selfDelimiting_namedTree :
    SelfDelimiting (fun named : String × Tree => Tree.Fits named.2)
      fun named => nameBytes named.1 ++ recordsStream named.2 := by
  intro a b ha hb
  exact selfDelimiting_nameBytes.pair selfDelimiting_recordsStream ⟨trivial, ha⟩ ⟨trivial, hb⟩

theorem length_namedTree_pos (named : String × Tree) :
    0 < (nameBytes named.1 ++ recordsStream named.2).length := by
  simp [nameBytes]

/-- **The stream of a tree determines it.** How many records there are is told at the end, in fewer
bytes than any record has. -/
theorem treeStream_eq_iff (hs : s.Fits) (ht : t.Fits) : treeStream s = treeStream t ↔ s = t := by
  refine ⟨fun heq => ?_, fun heq => heq ▸ rfl⟩
  obtain ⟨hlist, -⟩ := selfDelimiting_recordBytes.flatMap_short lt_length_recordBytes hs.inRange
    ht.inRange (length_wordBytes _).le (length_wordBytes _).le heq
  exact SortedMap.ext_toList hlist

/-- **The stream of a snapshot determines its content.** No number of ancillary trees is told; after
the last of them the stream ends, and before it there is at least an end mark. -/
theorem snapshotStream_eq_iff (ha : a.Fits) (hb : b.Fits) :
    a.stream = b.stream ↔ a.SameContent b := by
  constructor
  · intro heq
    obtain ⟨hrecords, hrest⟩ := selfDelimiting_recordsStream ha.records hb.records heq
    obtain ⟨hlist, -⟩ := selfDelimiting_namedTree.flatMap_short length_namedTree_pos ha.ancillary
      hb.ancillary List.length_nil.le List.length_nil.le (congrArg (· ++ []) hrest)
    exact ⟨hrecords, SortedMap.ext_toList hlist⟩
  · rintro ⟨hrecords, hancillary⟩
    rw [Snapshot.stream, Snapshot.stream, hrecords, hancillary]

/-! ## Digests -/

/-- The hash fails to tell two streams apart. -/
structure Collision (x y : Bytes) : Prop where
  /-- they are different -/
  ne : x ≠ y
  /-- and have one hash -/
  hash_eq : hash x = hash y

/-- **A digest shows all of the hash.** -/
theorem text_eq_iff : text x = text y ↔ hash x = hash y := by
  refine ⟨fun heq => ?_, fun heq => by rw [text, text, heq]⟩
  have hsmall : ∀ n : UInt64, n.toNat % 16 ^ 16 = n.toNat := fun n => Nat.mod_eq_of_lt n.toNat_lt
  have hdigits := congrArg Text.hexNumber? (String.ofList_injective heq)
  rw [Text.hexNumber?_hexDigits, Text.hexNumber?_hexDigits, hsmall, hsmall] at hdigits
  exact UInt64.toNat_inj.mp (Option.some.inj hdigits)

/-- Digests are equal exactly if the streams are, or collide. -/
theorem text_eq_iff_eq_or_collision : text x = text y ↔ x = y ∨ Collision x y := by
  rw [text_eq_iff]
  constructor
  · intro hhash
    by_cases heq : x = y
    · exact .inl heq
    · exact .inr ⟨heq, hhash⟩
  · rintro (rfl | hcollision)
    · rfl
    · exact hcollision.hash_eq

/-- **What a digest is taken of determines the content.** For all trees and all snapshots that have
fewer than 2^64 records in a tree, with keys and values shorter than 2^64 bytes: the streams of two
trees are equal exactly if the trees are, and the streams of two snapshots exactly if their records
and their ancillary trees are. So digests of different contents are equal only if the hash fails to
tell two different streams apart. -/
theorem stream_determines_content :
    (∀ s t : Tree, s.Fits → t.Fits →
      (treeStream s = treeStream t ↔ s = t) ∧
      (ofTree s = ofTree t ↔ s = t ∨ Collision (treeStream s) (treeStream t))) ∧
    (∀ a b : Snapshot, a.Fits → b.Fits →
      (a.stream = b.stream ↔ a.SameContent b) ∧
      (a.digest = b.digest ↔ a.SameContent b ∨ Collision a.stream b.stream)) := by
  refine ⟨fun s t hs ht => ?_, fun a b ha hb => ?_⟩
  · have hstream := treeStream_eq_iff hs ht
    refine ⟨hstream, ?_⟩
    rw [← hstream]
    exact text_eq_iff_eq_or_collision
  · have hstream := snapshotStream_eq_iff ha hb
    refine ⟨hstream, ?_⟩
    rw [← hstream]
    exact text_eq_iff_eq_or_collision

/-- Three bytes in one record, the first so many of them as its key. -/
def cutAfter (n : Nat) : Tree := SortedMap.ofList [([1, 2, 3].take n, [1, 2, 3].drop n)]

/-- The same bytes, cut into key and value in another place, or put into another tree, make another
stream. -/
theorem shifted_bytes_are_told_apart :
    let a : Snapshot := { records := cutAfter 1 }
    let b : Snapshot := { ancillary := SortedMap.ofList [(agentStatesTree, cutAfter 1)] }
    ((cutAfter 1).Fits ∧ (cutAfter 2).Fits ∧ treeStream (cutAfter 1) ≠ treeStream (cutAfter 2)) ∧
    (a.Fits ∧ b.Fits ∧ a.stream ≠ b.stream) := by
  intro a b
  obtain ⟨htrees, hsnapshots⟩ := stream_determines_content
  have hone : (cutAfter 1).Fits := ⟨by decide, by decide⟩
  have htwo : (cutAfter 2).Fits := ⟨by decide, by decide⟩
  have ha : a.Fits := ⟨hone, nofun⟩
  have hb : b.Fits := by
    refine ⟨⟨by decide, nofun⟩, fun named hnamed => ?_⟩
    obtain rfl := List.mem_singleton.mp hnamed
    exact hone
  refine ⟨⟨hone, htwo, ?_⟩, ha, hb, ?_⟩
  · exact (htrees _ _ hone htwo).1.not.mpr (by decide)
  · exact (hsnapshots a b ha hb).1.not.mpr fun hsame => absurd hsame.records (by decide)

end Digest

end ShadowGate
