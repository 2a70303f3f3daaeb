/-!
# Substring search

`occursIn needle text` says whether `needle` stands somewhere in `text`; the empty text stands
everywhere.

* `occursIn_iff` — it holds exactly when `text` is some text, then `needle`, then some text.
-/

namespace ShadowGate.Text

/-- Whether the characters of `needle` stand consecutively in `hay`. -/
def occursIn (needle : List Char) : List Char → Bool
  | [] => needle.isEmpty
  | c :: rest => needle.isPrefixOf (c :: rest) || occursIn needle rest

/-- Whether `needle` is a substring of `text`. -/
def containsText (text needle : String) : Bool := occursIn needle.toList text.toList

/-- A substring is what can be cut out of the text. -/
theorem occursIn_iff {needle hay : List Char} :
    occursIn needle hay = true ↔ ∃ front back, hay = front ++ needle ++ back := by
  induction hay with
  | nil =>
    simp only [occursIn, List.isEmpty_iff]
    constructor
    · rintro rfl
      exact ⟨[], [], rfl⟩
    · rintro ⟨front, back, h⟩
      have h' := h.symm
      simp only [List.append_eq_nil_iff] at h'
      exact h'.1.2
  | cons c rest ih =>
    simp only [occursIn, Bool.or_eq_true, List.isPrefixOf_iff_prefix, ih]
    constructor
    · rintro (⟨back, h⟩ | ⟨front, back, h⟩)
      · exact ⟨[], back, by simpa using h.symm⟩
      · exact ⟨c :: front, back, by simp [h]⟩
    · rintro ⟨front, back, h⟩
      cases front with
      | nil => exact Or.inl ⟨back, by simpa using h.symm⟩
      | cons d front =>
        simp only [List.cons_append, List.cons.injEq] at h
        exact Or.inr ⟨front, back, h.2⟩

end ShadowGate.Text
