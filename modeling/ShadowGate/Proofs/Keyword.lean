import Mathlib.Data.List.Infix
import ShadowGate.Check.Keyword

/-!
# What keyword checks find

A keyword check scans one long text, the fields of a proposal joined by blanks. A hazard word
without a blank cannot reach from one field into the next, so the scan finds it exactly where a
field has it, and no field can hide what another one says.

* `Text.infix_append_cons_iff` — **the join**: a text without the blank is found in a join exactly
  if it is found on one side of the blank.
* `Text.blank_not_mem_lower` — lower-casing makes no blanks.
* `Proposal.Mentions` — a field of the proposal holds the word, and
  `Proposal.containsText_searchableText_iff`: so does the text that is scanned.
* `KeywordCheck.penalizeAll`, `KeywordCheck.hits_penalizeAll` — the checks that can be set up, and
  what they count.
* `KeywordCheck.words_are_found_field_by_field` — the theorem.
-/

namespace ShadowGate

/-! ## Joins -/

namespace Text

theorem occursIn_iff_infix {needle hay : List Char} :
    occursIn needle hay = true ↔ needle <:+: hay := by
  rw [occursIn_iff]
  exact exists_congr fun front => exists_congr fun back => eq_comm

theorem containsText_iff_infix {text needle : String} :
    containsText text needle = true ↔ needle.toList <:+: text.toList :=
  occursIn_iff_infix

/-- What stands at the front of a join, without its separator, stands at the front of its first
part. -/
theorem prefix_append_cons_iff {x : Char} {needle : List Char} (hx : x ∉ needle)
    (left right : List Char) : needle <+: left ++ x :: right ↔ needle <+: left := by
  constructor
  · intro h
    induction left generalizing needle with
    | nil =>
      cases needle with
      | nil => exact List.nil_prefix
      | cons c rest =>
        obtain ⟨rfl, -⟩ := List.cons_prefix_cons.mp h
        exact absurd (List.mem_cons_self ..) hx
    | cons d left ih =>
      cases needle with
      | nil => exact List.nil_prefix
      | cons c rest =>
        obtain ⟨rfl, hrest⟩ := List.cons_prefix_cons.mp h
        exact List.cons_prefix_cons.mpr
          ⟨rfl, ih (fun hmem => hx (List.mem_cons_of_mem _ hmem)) hrest⟩
  · intro h
    exact h.trans (List.prefix_append _ _)

/-- **The join**: what does not hold the separator is found on one side of it. -/
theorem infix_append_cons_iff {x : Char} {needle : List Char} (hx : x ∉ needle)
    (left right : List Char) :
    needle <:+: left ++ x :: right ↔ needle <:+: left ∨ needle <:+: right := by
  induction left with
  | nil =>
    have hfront : needle <+: x :: right ↔ needle <:+: [] := by
      rw [List.infix_nil, ← List.prefix_nil]
      exact prefix_append_cons_iff hx [] right
    rw [List.nil_append, List.infix_cons_iff, hfront]
  | cons c left ih =>
    rw [List.cons_append, List.infix_cons_iff, ← List.cons_append, prefix_append_cons_iff hx, ih,
      List.infix_cons_iff, or_assoc]

/-! ## Lower case -/

/-- The forms of capitals lie above the blank, so a code point becomes a blank only if it is one. -/
theorem eq_blank_of_lowerCode {n : Nat} {table : List (Nat × Nat × Nat × Nat)}
    (htable : ∀ run ∈ table, ' '.toNat < run.2.2.2) (h : lowerCode n table = ' '.toNat) :
    n = ' '.toNat := by
  induction table with
  | nil => exact h
  | cons run rest ih =>
    obtain ⟨lo, hi, step, form⟩ := run
    have hform : ' '.toNat < form := htable _ (List.mem_cons_self ..)
    rw [lowerCode] at h
    split at h
    · exact h
    · split at h
      · split at h
        · omega
        · exact h
      · exact ih (fun run hrun => htable run (List.mem_cons_of_mem _ hrun)) h

theorem blank_lt_of_mem_lowerTable : ∀ run ∈ lowerTable, ' '.toNat < run.2.2.2 := by
  decide +kernel

theorem eq_blank_of_mem_lowerChar {c : Char} (h : ' ' ∈ lowerChar c) : c = ' ' := by
  rw [lowerChar] at h
  split at h
  · exact absurd h (by decide)
  · have hcode : (Char.ofNat (lowerCode c.toNat lowerTable)).toNat = ' '.toNat :=
      congrArg Char.toNat (List.mem_singleton.mp h).symm
    by_cases hvalid : (lowerCode c.toNat lowerTable).isValidChar
    · rw [Char.ofNat, dif_pos hvalid] at hcode
      exact Char.toNat_inj.mp (eq_blank_of_lowerCode blank_lt_of_mem_lowerTable hcode)
    · rw [Char.ofNat, dif_neg hvalid] at hcode
      exact absurd hcode (by decide)

/-- **Lower-casing makes no blanks.** -/
theorem blank_not_mem_lower {s : String} (hs : ' ' ∉ s.toList) : ' ' ∉ (lower s).toList := by
  have hfrom : ∀ cs before, ' ' ∉ cs → ' ' ∉ lowerFrom before cs := by
    intro cs
    induction cs with
    | nil => exact fun before _ => List.not_mem_nil
    | cons c rest ih =>
      intro before hcs
      obtain ⟨hc, hrest⟩ := not_or.mp (mt List.mem_cons.mpr hcs)
      have hform : ' ' ∉ lowerChar c := fun hmem => hc (eq_blank_of_mem_lowerChar hmem).symm
      rw [lowerFrom, List.mem_append, not_or]
      refine ⟨?_, ih (c :: before) hrest⟩
      -- a sigma has two forms, and neither is a blank
      split
      · split <;> decide
      · exact hform
  rw [lower, String.toList_ofList]
  exact hfrom s.toList [] hs

end Text

/-! ## Fields -/

namespace Proposal

/-- The texts of a proposal that keyword checks are about: the description, then the key and the
compact value of every modification. -/
def fields (p : Proposal) : List String :=
  p.description :: p.modifications.toList.flatMap fun m => [m.1, m.2.text]

/-- **A field of the proposal holds the word**, in lower case. -/
def Mentions (p : Proposal) (word : String) : Prop :=
  ∃ field ∈ p.fields, (Text.lower word).toList <:+: (Text.lower field).toList

/-- What is found in the text of modifications after some text. The induction is on the
modifications; the text in front of them grows by one of them at a time. -/
theorem infix_foldl_modificationText_iff {needle : List Char} (hneedle : ' ' ∉ needle)
    (modifications : List (String × Json)) (text : String) :
    needle <:+: (modifications.foldl (fun text m => text ++ modificationText m) text).toList ↔
      needle <:+: text.toList ∨ ∃ m ∈ modifications,
        needle <:+: (Text.lower m.1).toList ∨ needle <:+: (Text.lower m.2.text).toList := by
  induction modifications generalizing text with
  | nil => simp
  | cons m rest ih =>
    have htext : (text ++ modificationText m).toList =
        text.toList ++ ' ' :: ((Text.lower m.1).toList ++ ' ' :: (Text.lower m.2.text).toList) := by
      simp [modificationText, String.toList_append]
    rw [List.foldl_cons, ih, htext, Text.infix_append_cons_iff hneedle,
      Text.infix_append_cons_iff hneedle]
    simp only [List.mem_cons, exists_eq_or_imp, or_assoc]

/-- **The text that is scanned holds a word exactly if a field does**, for a word without a
blank. -/
theorem containsText_searchableText_iff (p : Proposal) {word : String} (hword : ' ' ∉ word.toList) :
    Text.containsText p.searchableText (Text.lower word) = true ↔ p.Mentions word := by
  rw [Text.containsText_iff_infix, searchableText,
    infix_foldl_modificationText_iff (Text.blank_not_mem_lower hword), Mentions, fields]
  simp only [List.mem_cons, exists_eq_or_imp, List.mem_flatMap, List.not_mem_nil, or_false]
  refine or_congr_right ⟨?_, ?_⟩
  · rintro ⟨m, hm, hkey | hvalue⟩
    · exact ⟨m.1, ⟨m, hm, .inl rfl⟩, hkey⟩
    · exact ⟨m.2.text, ⟨m, hm, .inr rfl⟩, hvalue⟩
  · rintro ⟨field, ⟨m, hm, rfl | rfl⟩, hfield⟩
    · exact ⟨m, hm, .inl hfield⟩
    · exact ⟨m, hm, .inr hfield⟩

/-- A proposal with one more modification. -/
def withModification (p : Proposal) (key : String) (value : Json) : Proposal :=
  { p with modifications := p.modifications.insert key value }

/-- **One more modification takes nothing away** from what is mentioned. -/
theorem Mentions.withModification {p : Proposal} {word key : String} (h : p.Mentions word)
    (hkey : p.modifications.get? key = none) (value : Json) :
    (p.withModification key value).Mentions word := by
  obtain ⟨field, hfield, hinfix⟩ := h
  refine ⟨field, ?_, hinfix⟩
  simp only [fields, List.mem_cons, List.mem_flatMap] at hfield ⊢
  refine hfield.imp_right ?_
  rintro ⟨⟨k, v⟩, hm, hof⟩
  have hget : p.modifications.get? k = some v := SortedMap.get?_eq_some_iff.mpr hm
  have hne : k ≠ key := by
    rintro rfl
    rw [hkey] at hget
    cases hget
  have hkept : (p.modifications.insert key value).get? k = some v := by
    rw [SortedMap.get?_insert_ne _ hne, hget]
  exact ⟨(k, v), SortedMap.get?_eq_some_iff.mp hkept, hof⟩

end Proposal

/-! ## Checks -/

namespace KeywordCheck

/-- A check after hazard words and penalties were added to it, one list after the other. -/
def penalizeAll (c : KeywordCheck) (calls : List (List String × Float)) : KeywordCheck :=
  calls.foldl (fun c call => c.penalize call.1 call.2) c

theorem keywords_penalizeAll (c : KeywordCheck) (calls : List (List String × Float)) :
    (c.penalizeAll calls).keywords = c.keywords ++ (calls.flatMap (·.1)).map Text.lower := by
  induction calls generalizing c with
  | nil => simp [penalizeAll]
  | cons call rest ih =>
    have hrest : (c.penalizeAll (call :: rest)).keywords =
        (c.penalize call.1 call.2).keywords ++ (rest.flatMap (·.1)).map Text.lower :=
      ih (c.penalize call.1 call.2)
    rw [hrest, penalize, List.flatMap_cons, List.map_append, List.append_assoc]

/-- **A check counts the words that were added**, each as often as it was, that stand in the text in
lower case. -/
theorem hits_penalizeAll (name : String) (kind : Dimension) (baseline : Float)
    (calls : List (List String × Float)) (text : String) :
    (penalizeAll { name, kind, baseline } calls).hits text =
      (calls.flatMap (·.1)).countP fun word => Text.containsText text (Text.lower word) := by
  rw [hits, keywords_penalizeAll, ← List.countP_eq_length_filter, List.nil_append, List.countP_map]
  rfl

/-- **Hazard words are found field by field.** However a keyword check is set up, and whatever the
proposal: it counts the hazard words that stand in the text that it scans; a word without a blank
does so exactly if the description, the key of a modification or the compact value of one holds it,
each in lower case, and never across two of them. So if no word has a blank, one more modification,
under a new key and wherever that comes in the order of keys, takes no hit away. -/
theorem words_are_found_field_by_field (name : String) (kind : Dimension) (baseline : Float)
    (calls : List (List String × Float)) (p : Proposal) :
    let check := penalizeAll { name, kind, baseline } calls
    let words := calls.flatMap (·.1)
    check.hits p.searchableText =
      words.countP (fun word => Text.containsText p.searchableText (Text.lower word)) ∧
    (∀ word ∈ words, ' ' ∉ word.toList →
      (Text.containsText p.searchableText (Text.lower word) = true ↔ p.Mentions word)) ∧
    ((∀ word ∈ words, ' ' ∉ word.toList) → ∀ key value, p.modifications.get? key = none →
      check.hits p.searchableText ≤ check.hits (p.withModification key value).searchableText) := by
  intro check words
  refine ⟨hits_penalizeAll .., fun word _ hword => p.containsText_searchableText_iff hword, ?_⟩
  intro hwords key value hkey
  rw [hits_penalizeAll, hits_penalizeAll]
  refine List.countP_mono_left fun word hmem hfound => ?_
  have hword := hwords word hmem
  have hmentions := (p.containsText_searchableText_iff hword).mp hfound
  exact ((p.withModification key value).containsText_searchableText_iff hword).mpr
    (hmentions.withModification hkey value)

/-- A check whose two lists of hazard words have one in common, up to case. -/
def boundsCheck : KeywordCheck :=
  penalizeAll { name := "bounds", kind := .safety, baseline := 0.9 }
    [(["Unbounded"], 0.25), (["override", "unbounded"], 0.1)]

/-- A proposal that modifies one record. -/
def searchProposal (description key : String) : Proposal where
  id := "p"
  source := ""
  category := .metaLearning
  description := description
  modifications := SortedMap.ofList [(key, .str "wide")]
  confidence := 1.0

/-- The word that was added twice counts twice, and a modification that comes before all others does
not change that. -/
theorem padding_hides_no_hazard :
    let p := searchProposal "An UNBOUNDED search" "search"
    boundsCheck.hits p.searchableText = 2 ∧ p.Mentions "Unbounded" ∧
      2 ≤ boundsCheck.hits (p.withModification "a" (.str "calm")).searchableText := by
  intro p
  obtain ⟨-, hfound, hpadded⟩ := words_are_found_field_by_field "bounds" .safety 0.9
    [(["Unbounded"], 0.25), (["override", "unbounded"], 0.1)] p
  have hhits : boundsCheck.hits p.searchableText = 2 := by decide +kernel
  refine ⟨hhits, ?_, ?_⟩
  · exact (hfound "Unbounded" (by decide) (by decide)).mp (by decide +kernel)
  · rw [← hhits]
    exact hpadded (by decide) "a" (.str "calm") rfl

/-- A word with a blank can reach from one field into the next. -/
example : (penalizeAll { name := "limits", kind := .safety, baseline := 0.9 }
    [(["no limit"], 0.2)]).hits (searchProposal "There is no" "limit").searchableText = 1 := by
  decide +kernel

end KeywordCheck

end ShadowGate
