import ShadowGate.Store

/-!
# Readers of a store

A store holds bytes under bytes, and has three readers that decode them. They treat what does not
decode in three ways: a read reports it, a scan passes over it, and a snapshot keeps the bytes and
shows no value. Where both key and value decode, all three show the same.

* `Text.ofBytes?_eq_some_iff` — **a text has one encoding**, so a decoded key leads back to its
  record.
* `Bytes.compare_eq_lt_iff` — the order of a tree is that of the bytes of its keys.
* `Tree.valueAt?` — the value under a text key, which every reader shows in its own way:
  `Store.read_eq_ok_some_iff`, `Store.mem_scan_iff`, `Store.get?_snapshot_eq_some_iff`.
* `Store.readers_agree` — the theorem.
-/

namespace ShadowGate

/-! ## Bytes -/

/-- **A text has one encoding**: bytes that decode are those that the text encodes to. -/
theorem Text.ofBytes?_eq_some_iff {bytes : Bytes} {s : String} :
    ofBytes? bytes = some s ↔ bytes = toBytes s := by
  constructor
  · intro h
    rw [ofBytes?, String.fromUTF8?] at h
    split at h
    · obtain rfl := Option.some.inj h
      rfl
    · cases h
  · rintro rfl
    exact ofBytes?_toBytes s

/-- Trees are in the lexicographic order of the bytes of their keys. -/
theorem Bytes.compare_eq_lt_iff {a b : Bytes} : compare a b = .lt ↔ a < b := by
  induction a generalizing b with
  | nil => cases b <;> simp
  | cons x a ih =>
    cases b with
    | nil => simp
    | cons y b =>
      simp [List.compare_cons_cons, List.cons_lt_cons_iff, Ordering.then_eq_lt,
        Std.compare_eq_lt, ih]

/-! ## Trees -/

namespace Tree

/-- The value under a text key, if there is a record and its bytes decode. -/
def valueAt? (t : Tree) (key : String) : Option Json := (t.bytesAt key).bind Json.ofBytes?

theorem decodeRecord_eq_some_iff {r : Bytes × Bytes} {key : String} {v : Json} :
    decodeRecord r = some (key, v) ↔ r.1 = Text.toBytes key ∧ Json.ofBytes? r.2 = some v := by
  simp [decodeRecord, Option.bind_eq_some_iff, Text.ofBytes?_eq_some_iff]

/-- **A pair is among the decoded records** exactly if its value is the one under its key. -/
theorem mem_decoded_iff {t : Tree} {key : String} {v : Json} :
    (key, v) ∈ t.decoded ↔ t.valueAt? key = some v := by
  rw [decoded, List.mem_filterMap, valueAt?, Option.bind_eq_some_iff]
  constructor
  · rintro ⟨⟨k, bytes⟩, hr, hdecode⟩
    obtain ⟨rfl, hv⟩ := decodeRecord_eq_some_iff.mp hdecode
    exact ⟨bytes, SortedMap.get?_eq_some_iff.mpr hr, hv⟩
  · rintro ⟨bytes, hbytes, hv⟩
    exact ⟨(Text.toBytes key, bytes), SortedMap.get?_eq_some_iff.mp hbytes,
      decodeRecord_eq_some_iff.mpr ⟨rfl, hv⟩⟩

/-- **The decoded records are in the order of the tree.** -/
theorem pairwise_decoded (t : Tree) :
    t.decoded.Pairwise fun p q => Text.toBytes p.1 < Text.toBytes q.1 := by
  rw [decoded, List.pairwise_filterMap]
  refine t.sorted.imp fun {r r'} hlt p hp q hq => ?_
  obtain ⟨hr, -⟩ := decodeRecord_eq_some_iff.mp hp
  obtain ⟨hr', -⟩ := decodeRecord_eq_some_iff.mp hq
  rw [← hr, ← hr']
  exact Bytes.compare_eq_lt_iff.mp hlt

theorem nodup_decoded (t : Tree) : (t.decoded.map (·.1)).Nodup := by
  refine List.pairwise_map.mpr (t.pairwise_decoded.imp fun {p q} hlt heq => ?_)
  rw [heq] at hlt
  exact List.lt_irrefl _ hlt

end Tree

/-! ## Stores -/

namespace Store

variable {s : Store} {key : String}

/-- **A read gives a value** exactly if there is one under the key. -/
theorem read_eq_ok_some_iff {v : Json} :
    s.read key = .ok (some v) ↔ s.state.valueAt? key = some v := by
  rw [read, Tree.valueAt?]
  cases s.state.bytesAt key with
  | none => simp
  | some bytes => cases hv : Json.ofBytes? bytes <;> simp [hv]

/-- **A read fails** if there is a record under the key and its bytes do not decode. -/
theorem read_of_undecodable {bytes : Bytes} (hbytes : s.state.bytesAt key = some bytes)
    (hundecodable : Json.ofBytes? bytes = none) : s.read key = .error .serialization := by
  simp [read, hbytes, hundecodable]

/-- **A scan lists a pair** exactly if a read of its key gives its value. -/
theorem mem_scan_iff {v : Json} : (key, v) ∈ s.scan ↔ s.read key = .ok (some v) := by
  rw [read_eq_ok_some_iff]
  exact Tree.mem_decoded_iff

theorem get?_snapshot (s : Store) (key : String) :
    s.snapshot.get? key = s.state.valueAt? key := rfl

/-- **A snapshot shows a value** exactly if a read gives it. -/
theorem get?_snapshot_eq_some_iff {v : Json} :
    s.snapshot.get? key = some v ↔ s.read key = .ok (some v) := by
  rw [read_eq_ok_some_iff, get?_snapshot]

/-- **The readers of a store agree**, whatever bytes it holds. A scan lists its pairs in strictly
increasing order of the bytes of their keys, and no key twice. A read gives a value exactly if there
are bytes under the key that decode to it; a scan lists the pair exactly then, and a snapshot shows
the value. A record whose value does not decode is in no scan, fails a read and is not shown by a
snapshot; but the records of the snapshot are those of the tree, all of them and byte for byte. -/
theorem readers_agree (s : Store) :
    (s.scan.Pairwise fun p q => Text.toBytes p.1 < Text.toBytes q.1) ∧
    (s.scan.map (·.1)).Nodup ∧
    (∀ key v, s.read key = .ok (some v) ↔
      ∃ bytes, s.state.bytesAt key = some bytes ∧ Json.ofBytes? bytes = some v) ∧
    (∀ key v, (key, v) ∈ s.scan ↔ s.read key = .ok (some v)) ∧
    (∀ key v, s.snapshot.get? key = some v ↔ s.read key = .ok (some v)) ∧
    (∀ key bytes, s.state.bytesAt key = some bytes → Json.ofBytes? bytes = none →
      (∀ v, (key, v) ∉ s.scan) ∧ s.read key = .error .serialization ∧
        s.snapshot.get? key = none) ∧
    s.snapshot.records.toList = s.state.toList := by
  refine ⟨s.state.pairwise_decoded, s.state.nodup_decoded,
    fun _ _ => read_eq_ok_some_iff.trans Option.bind_eq_some_iff, fun _ _ => mem_scan_iff,
    fun _ _ => get?_snapshot_eq_some_iff, ?_, rfl⟩
  intro key bytes hbytes hundecodable
  have hread := read_of_undecodable hbytes hundecodable
  refine ⟨fun v hv => ?_, hread, ?_⟩
  · rw [mem_scan_iff, hread] at hv
    cases hv
  · simp [get?_snapshot, Tree.valueAt?, hbytes, hundecodable]

/-- A store that holds a truth value, bytes that are no value, and a truth value under bytes that
are no text. -/
def damaged : Store :=
  Store.setTree {} stateTree <| SortedMap.ofList
    [(Text.toBytes "whole", (Json.bool true).bytes), (Text.toBytes "torn", [0xff]),
     ([0xfe], (Json.bool true).bytes)]

/-- Of the three records a scan lists one; a read of the torn one fails, and all three are in a
snapshot. -/
theorem damaged_records_are_kept :
    damaged.scan.map (·.1) = ["whole"] ∧ (∀ v, ("torn", v) ∉ damaged.scan) ∧
      damaged.read "torn" = .error .serialization ∧ damaged.snapshot.get? "torn" = none ∧
      damaged.snapshot.records.toList.length = 3 := by
  obtain ⟨-, -, -, -, -, htorn, hrecords⟩ := readers_agree damaged
  obtain ⟨hscan, hread, hsnapshot⟩ := htorn "torn" [0xff] (by decide) (by decide)
  exact ⟨by decide +kernel, hscan, hread, hsnapshot, by rw [hrecords]; decide⟩

end Store

end ShadowGate
