import ShadowGate.Criteria
import ShadowGate.Ledger
import ShadowGate.Merge
import ShadowGate.Proofs.Codec.ShadowId
import ShadowGate.Proofs.Codec.Value

/-!
# Records that are written and read back

Every record of the gate is written as an object of its fields. A reader takes more than that:
fields in any order and beside others, fields that are missing and have a default, a list in place
of an object. Whatever it took, the record is written and read back as it is.

* `Proposal.faithful`, `Criteria.faithful` and so on — each record, field by field.
* `Statistics.faithful_categories` — counts by category, which are written in the order of the names
  of the categories and kept in that of the categories.
* `records_round_trip` — the theorem.
-/

namespace ShadowGate

open Json (Faithful Fits Row)

/-! ## Tags -/

@[simp] theorem Category.ofJson?_toJson (c : Category) : ofJson? c.toJson = some c := by
  cases c <;> rfl

@[simp] theorem Priority.ofJson?_toJson (p : Priority) : ofJson? p.toJson = some p := by
  cases p <;> rfl

@[simp] theorem Level.ofJson?_toJson (l : Level) : ofJson? l.toJson = some l := by
  cases l <;> rfl

@[simp] theorem Isolation.ofJson?_tag (i : Isolation) : ofJson? (.str i.tag) = some i := by
  cases i <;> rfl

@[simp] theorem Protection.ofJson?_tag (p : Protection) : ofJson? (.str p.tag) = some p := by
  cases p <;> rfl

@[simp] theorem Dimension.ofJson?_toJson (d : Dimension) : ofJson? d.toJson = some d := by
  cases d <;> rfl

@[simp] theorem Risk.Kind.ofJson?_toJson (k : Kind) : ofJson? k.toJson = some k := by
  cases k <;> rfl

/-! ## Records with numbers -/

theorem Proposal.faithful :
    Faithful (fun p : Proposal => Fits [p.confidence] []) toJson ofJson? where
  back p h := by
    have hmodifications : modifications? (.obj p.modifications.toList) = some p.modifications :=
      congrArg some p.modifications.ofList_toList
    simp only [Fits, List.forall_mem_cons] at h
    simp [ofJson?, ofJsonWith, toJson, findPair_cons, -Option.bind_eq_bind, Json.float?_ofFloat, h,
      hmodifications]
  sound v p hv hp := by
    simp only [ofJson?, ofJsonWith, Json.bind_eq_some] at hp
    obtain ⟨row, hrow, _, -, _, -, _, -, _, -, _, -, _, -, _, -, x, hx, _, -, heq⟩ := hp
    obtain rfl := Option.some.inj heq
    have hrow := Row.writable_of_ofJson? hv hrow
    simpa [Fits] using Json.faithful_float.required hrow hx

theorem Criteria.faithful :
    Faithful (fun c : Criteria =>
      Fits [c.safetyThreshold, c.performanceThreshold, c.ethicsThreshold]
        [c.maxSimultaneousChanges]) toJson ofJson? where
  back c h := by
    simp only [Fits, List.forall_mem_cons] at h
    simp [ofJson?, toJson, findPair_cons, -Option.bind_eq_bind, Json.float?_ofFloat,
      Json.nat?_ofNat, h]
  sound v c hv hc := by
    simp only [ofJson?, Json.bind_eq_some] at hc
    obtain ⟨row, hrow, _, -, s, hs, p, hp, e, he, _, -, _, -, n, hn, heq⟩ := hc
    obtain rfl := Option.some.inj heq
    have hrow := Row.writable_of_ofJson? hv hrow
    have hs := Json.faithful_float.withDefault hrow (by decide) hs
    have hp := Json.faithful_float.withDefault hrow (by decide) hp
    have he := Json.faithful_float.withDefault hrow (by decide) he
    have hn := Json.faithful_nat.withDefault hrow (by decide) hn
    simp [Fits, hs, hp, he, hn]

theorem Settings.faithful :
    Faithful (fun s : Settings =>
      Fits [s.maxDurationHours, s.safetyThreshold, s.performanceThreshold, s.ethicsThreshold]
        [s.sweepIntervalSecs, s.cleanupTimeoutMs, s.maxSimultaneousChanges]) toJson ofJson? where
  back s h := by
    simp only [Fits, List.forall_mem_cons] at h
    simp [ofJson?, toJson, findPair_cons, -Option.bind_eq_bind, Json.float?_ofFloat,
      Json.nat?_ofNat, h]
  sound v s hv hs := by
    simp only [ofJson?, Json.bind_eq_some] at hs
    obtain ⟨row, hrow, _, -, d, hd, i, hi, t, ht, s, hs, p, hp, e, he, _, -, n, hn, heq⟩ := hs
    obtain rfl := Option.some.inj heq
    have hrow := Row.writable_of_ofJson? hv hrow
    have hd := Json.faithful_float.withDefault hrow (by decide) hd
    have hi := Json.faithful_nat.withDefault hrow (by decide) hi
    have ht := Json.faithful_nat.withDefault hrow (by decide) ht
    have hs := Json.faithful_float.withDefault hrow (by decide) hs
    have hp := Json.faithful_float.withDefault hrow (by decide) hp
    have he := Json.faithful_float.withDefault hrow (by decide) he
    have hn := Json.faithful_nat.withDefault hrow (by decide) hn
    simp [Fits, hd, hi, ht, hs, hp, he, hn]

theorem ShadowConfig.faithful :
    Faithful (fun c : ShadowConfig => Fits [c.maxDurationHours] []) toJson ofJson? where
  back c h := by
    simp only [Fits, List.forall_mem_cons] at h
    simp [ofJson?, toJson, findPair_cons, -Option.bind_eq_bind, Json.float?_ofFloat, h]
  sound v c hv hc := by
    simp only [ofJson?, Json.bind_eq_some] at hc
    obtain ⟨row, hrow, _, -, _, -, _, -, _, -, _, -, d, hd, _, -, heq⟩ := hc
    obtain rfl := Option.some.inj heq
    have hrow := Row.writable_of_ofJson? hv hrow
    simpa [Fits] using Json.faithful_float.withDefault hrow (by decide) hd

theorem Policy.faithful :
    Faithful (fun p : Policy => Fits [p.maxRiskTolerance] []) toJson ofJson? where
  back p h := by
    simp only [Fits, List.forall_mem_cons] at h
    simp [ofJson?, toJson, findPair_cons, -Option.bind_eq_bind, Json.float?_ofFloat, h]
  sound v p hv hp := by
    simp only [ofJson?, Json.bind_eq_some] at hp
    obtain ⟨row, hrow, _, -, _, -, t, ht, heq⟩ := hp
    obtain rfl := Option.some.inj heq
    have hrow := Row.writable_of_ofJson? hv hrow
    simpa [Fits] using Json.faithful_float.required hrow ht

/-- A reason that is left out is absent. -/
theorem CheckScore.faithful :
    Faithful (fun c : CheckScore => Fits [c.score] []) toJson ofJson? where
  back c h := by
    obtain ⟨name, kind, score, degraded⟩ := c
    simp only [Fits, List.forall_mem_cons] at h
    cases degraded with
    | none =>
      simp [ofJson?, toJson, findPair_cons, findPair, -Option.bind_eq_bind, Json.float?_ofFloat, h]
    | some reason =>
      simp [ofJson?, toJson, findPair_cons, -Option.bind_eq_bind, Json.float?_ofFloat,
        Json.option?, h]
  sound v c hv hc := by
    simp only [ofJson?, Json.bind_eq_some] at hc
    obtain ⟨row, hrow, _, -, _, -, x, hx, _, -, heq⟩ := hc
    obtain rfl := Option.some.inj heq
    have hrow := Row.writable_of_ofJson? hv hrow
    simpa [Fits] using Json.faithful_float.required hrow hx

theorem Risk.Item.faithful :
    Faithful (fun i : Item => Fits [i.severity] []) toJson ofJson? where
  back i h := by
    simp only [Fits, List.forall_mem_cons] at h
    simp [ofJson?, toJson, findPair_cons, -Option.bind_eq_bind, Json.float?_ofFloat, h]
  sound v i hv hi := by
    simp only [ofJson?, Json.bind_eq_some] at hi
    obtain ⟨row, hrow, _, -, _, -, x, hx, heq⟩ := hi
    obtain rfl := Option.some.inj heq
    have hrow := Row.writable_of_ofJson? hv hrow
    simpa [Fits] using Json.faithful_float.required hrow hx

/-- An assessment and the items of its list. -/
theorem Risk.Assessment.faithful :
    Faithful (fun a : Assessment =>
      Fits ([a.meanSeverity, a.confidencePenalty, a.riskLevel, a.tolerance] ++
        a.items.map (·.severity)) []) toJson ofJson? where
  back a h := by
    simp only [Fits, List.cons_append, List.nil_append, List.forall_mem_cons, List.forall_mem_map]
      at h
    have hitems : Json.list? Item.ofJson? (Json.ofList Item.toJson a.items) = some a.items := by
      refine (Json.faithful_list Item.faithful).back a.items fun i hi => ?_
      simpa [Fits] using h.1.2.2.2.2 i hi
    simp [ofJson?, toJson, findPair_cons, -Option.bind_eq_bind, Json.float?_ofFloat, hitems, h]
  sound v a hv ha := by
    simp only [ofJson?, Json.bind_eq_some] at ha
    obtain ⟨row, hrow, items, hitems, m, hm, p, hp, r, hr, t, ht, _, -, _, -, heq⟩ := ha
    obtain rfl := Option.some.inj heq
    have hrow := Row.writable_of_ofJson? hv hrow
    have hitems := (Json.faithful_list Item.faithful).required hrow hitems
    have hm := Json.faithful_float.required hrow hm
    have hp := Json.faithful_float.required hrow hp
    have hr := Json.faithful_float.required hrow hr
    have ht := Json.faithful_float.required hrow ht
    simpa [Fits, hm, hp, hr, ht] using hitems

/-! ## Counts by category -/

theorem Category.tag_injective {c d : Category} (h : c.tag = d.tag) : c = d := by
  have hc := c.ofJson?_toJson
  rw [Category.toJson, h] at hc
  exact Option.some.inj (hc.symm.trans d.ofJson?_toJson)

namespace Statistics

/-- Counts by category as a value. -/
def categoriesJson (m : SortedMap Category Nat) : Json :=
  Json.object (m.toList.map fun p => (p.1.tag, .ofNat p.2))

/-- The count of a category, from a field of an object. -/
def category? (f : String × Json) : Option (Category × Nat) := do
  let category ← Category.ofJson? (.str f.1)
  let n ← f.2.nat?
  pure (category, n)

theorem categories?_obj (fields : List (String × Json)) :
    categories? (.obj fields) = fields.mapM category? >>= fun pairs => some (.ofList pairs) := rfl

theorem category?_of_lt (c : Category) {n : Nat} (hn : n < Number.nat64Bound) :
    category? (c.tag, .ofNat n) = some (c, n) := by
  have hcategory : Category.ofJson? (.str c.tag) = some c := c.ofJson?_toJson
  rw [category?, hcategory, Json.nat?_ofNat hn]
  rfl

/-- The fields of the value are the counts, in another order. -/
theorem categoriesJson_eq (m : SortedMap Category Nat) :
    ∃ fields, categoriesJson m = .obj fields ∧
      fields.Perm (m.toList.map fun p => (p.1.tag, Json.ofNat p.2)) := by
  have hnames : ((m.toList.map fun p => (p.1.tag, Json.ofNat p.2)).map Prod.fst).Nodup := by
    rw [List.map_map]
    refine List.pairwise_map.mpr (List.pairwise_map.mp m.nodup_keys |>.imp ?_)
    exact fun hne heq => hne (Category.tag_injective heq)
  rw [← List.append_nil (m.toList.map _)] at hnames
  have hsorted := foldl_insertPair_perm hnames
  rw [List.append_nil] at hsorted
  exact ⟨_, rfl, hsorted⟩

/-- **Counts by category**: written in the order of the names, read in whatever order. -/
theorem faithful_categories :
    Faithful (fun m : SortedMap Category Nat => ∀ n ∈ m.values, n < Number.nat64Bound)
      categoriesJson categories? where
  back m h := by
    obtain ⟨fields, hfields, hsorted⟩ := categoriesJson_eq m
    have hread : (m.toList.map fun p => (p.1.tag, Json.ofNat p.2)).mapM category? =
        some m.toList := by
      refine Json.mapM_map fun p hp => category?_of_lt p.1 (h p.2 ?_)
      exact List.mem_map_of_mem hp
    obtain ⟨pairs, hpairs, hsame⟩ := Json.mapM_perm hsorted hread
    have hmap : SortedMap.ofList pairs = m := SortedMap.ofList_of_perm hsame
    rw [hfields, categories?_obj, hpairs, Json.some_bind, hmap]
  sound v m hv hm := by
    cases v with
    | obj fields =>
      rw [categories?_obj] at hm
      obtain ⟨pairs, hpairs, heq⟩ := Json.bind_eq_some.mp hm
      obtain rfl := Option.some.inj heq
      intro n hn
      obtain ⟨⟨c, n⟩, hmem, rfl⟩ := List.mem_map.mp hn
      obtain ⟨f, hf, hread⟩ := Json.mem_of_mapM hpairs (SortedMap.mem_of_mem_ofList hmem)
      obtain ⟨_, -, hcount⟩ := Json.bind_eq_some.mp hread
      obtain ⟨n', hn', heq⟩ := Json.bind_eq_some.mp hcount
      obtain ⟨-, rfl⟩ := Prod.mk.inj (Option.some.inj heq)
      exact Json.faithful_nat.sound f.2 n' (Json.WritableFields.of_mem hv hf) hn'
    | _ => cases hm

theorem faithful :
    Faithful (fun s : Statistics =>
      Fits [s.approvalRate, s.meanOverall, s.meanSafety, s.meanPerformance, s.meanEthics]
        ([s.total, s.approved, s.conditional, s.requiresReview, s.rejected] ++
          s.categories.values)) toJson ofJson? where
  back s h := by
    simp only [Fits, List.cons_append, List.nil_append, List.forall_mem_cons] at h
    have hcategories : categories? (Json.object (s.categories.toList.map
        fun p => (p.1.tag, .ofNat p.2))) = some s.categories :=
      faithful_categories.back s.categories h.2.2.2.2.2.2
    simp [ofJson?, toJson, findPair_cons, -Option.bind_eq_bind, Json.float?_ofFloat,
      Json.nat?_ofNat, hcategories, h]
  sound v s hv hs := by
    simp only [ofJson?, Json.bind_eq_some] at hs
    obtain ⟨row, hrow, t, ht, a, ha, c, hc, r, hr, j, hj, x, hx, o, ho, y, hy, p, hp, e, he, m, hm,
      heq⟩ := hs
    obtain rfl := Option.some.inj heq
    have hrow := Row.writable_of_ofJson? hv hrow
    have ht := Json.faithful_nat.required hrow ht
    have ha := Json.faithful_nat.required hrow ha
    have hc := Json.faithful_nat.required hrow hc
    have hr := Json.faithful_nat.required hrow hr
    have hj := Json.faithful_nat.required hrow hj
    have hx := Json.faithful_float.required hrow hx
    have ho := Json.faithful_float.required hrow ho
    have hy := Json.faithful_float.required hrow hy
    have hp := Json.faithful_float.required hrow hp
    have he := Json.faithful_float.required hrow he
    have hm := faithful_categories.required hrow hm
    simpa [Fits, ht, ha, hc, hr, hj, hx, ho, hy, hp, he] using hm

end Statistics

/-! ## Records without numbers -/

/-- An outcome is told by its tag. -/
theorem AuditOutcome.faithful : Faithful (fun _ : AuditOutcome => True) toJson ofJson? where
  back o _ := by
    have hfields : ∀ fields : List (String × Json), ofJson? (Json.object fields) =
        ((findPair "outcome" fields.reverse).bind Json.str?).bind fun tag =>
          ofFields? tag (findPair "error" fields.reverse) := by
      intro fields
      rw [Json.object, ofJson?, findPair_foldl_insertPair, findPair_foldl_insertPair]
      simp [findPair]
    rw [toJson, hfields]
    cases o with
    | applied => simp [fields, findPair_cons, ofFields?]
    | failed error => simp [fields, findPair_cons, ofFields?]
  sound _ _ _ _ := trivial

/-- An id that is absent is null. -/
theorem CleanupReport.faithful :
    Faithful (fun _ : CleanupReport => True) toJson ofJson? where
  back r _ := by
    have hid : Json.option? ShadowId.ofJson? (Json.ofOption ShadowId.toJson r.shadowId) =
        some r.shadowId := by
      cases r.shadowId with
      | none => rfl
      | some id =>
        rw [Json.ofOption, Json.option?_of_ne_null (by simp [ShadowId.toJson]),
          id.ofJson?_toJson]
        rfl
    simp [ofJson?, toJson, findPair_cons, -Option.bind_eq_bind, hid]
  sound _ _ _ _ := trivial

/-! ## The theorem -/

/-- **Records round trip**: a sound record is read back as it was written, and a record that was read
from any value of a document is written and read back as it is. -/
structure Json.RoundTrips {α : Type} (Sound : α → Prop) (encode : α → Json)
    (decode : Json → Option α) : Prop where
  /-- what is written is read back -/
  back : ∀ a, Sound a → decode (encode a) = some a
  /-- what is read is written and read again -/
  again : ∀ v a, v.Writable → decode v = some a → decode (encode a) = some a

theorem Json.Faithful.roundTrips {α : Type} {Sound : α → Prop} {encode : α → Json}
    {decode : Json → Option α} (h : Faithful Sound encode decode) :
    RoundTrips Sound encode decode where
  back := h.back
  again _ _ hv ha := h.again hv ha

open Json (RoundTrips) in
/-- **Every record is read back as it was written**, as long as its doubles are finite and its counts
fit 64 bits: absent fields, tags, counts by category and ids included. And whatever value of a
document a record was read from, with unknown fields, without the fields that have a default or as a
list, it is written and read back as the same record. -/
theorem records_round_trip :
    RoundTrips (fun p : Proposal => Fits [p.confidence] []) Proposal.toJson Proposal.ofJson? ∧
    RoundTrips (fun c : Criteria =>
        Fits [c.safetyThreshold, c.performanceThreshold, c.ethicsThreshold]
          [c.maxSimultaneousChanges])
      Criteria.toJson Criteria.ofJson? ∧
    RoundTrips (fun s : Settings =>
        Fits [s.maxDurationHours, s.safetyThreshold, s.performanceThreshold, s.ethicsThreshold]
          [s.sweepIntervalSecs, s.cleanupTimeoutMs, s.maxSimultaneousChanges])
      Settings.toJson Settings.ofJson? ∧
    RoundTrips (fun c : ShadowConfig => Fits [c.maxDurationHours] [])
      ShadowConfig.toJson ShadowConfig.ofJson? ∧
    RoundTrips (fun p : Policy => Fits [p.maxRiskTolerance] []) Policy.toJson Policy.ofJson? ∧
    RoundTrips (fun c : CheckScore => Fits [c.score] []) CheckScore.toJson CheckScore.ofJson? ∧
    RoundTrips (fun i : Risk.Item => Fits [i.severity] []) Risk.Item.toJson Risk.Item.ofJson? ∧
    RoundTrips (fun a : Risk.Assessment =>
        Fits ([a.meanSeverity, a.confidencePenalty, a.riskLevel, a.tolerance] ++
          a.items.map (·.severity)) [])
      Risk.Assessment.toJson Risk.Assessment.ofJson? ∧
    RoundTrips (fun _ : AuditOutcome => True) AuditOutcome.toJson AuditOutcome.ofJson? ∧
    RoundTrips (fun _ : CleanupReport => True) CleanupReport.toJson CleanupReport.ofJson? ∧
    RoundTrips (fun s : Statistics =>
        Fits [s.approvalRate, s.meanOverall, s.meanSafety, s.meanPerformance, s.meanEthics]
          ([s.total, s.approved, s.conditional, s.requiresReview, s.rejected] ++
            s.categories.values))
      Statistics.toJson Statistics.ofJson? :=
  ⟨Proposal.faithful.roundTrips, Criteria.faithful.roundTrips, Settings.faithful.roundTrips,
    ShadowConfig.faithful.roundTrips, Policy.faithful.roundTrips, CheckScore.faithful.roundTrips,
    Risk.Item.faithful.roundTrips, Risk.Assessment.faithful.roundTrips,
    AuditOutcome.faithful.roundTrips, CleanupReport.faithful.roundTrips,
    Statistics.faithful.roundTrips⟩

end ShadowGate
