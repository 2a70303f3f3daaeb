import Mathlib.Algebra.Group.Nat.Defs
import ShadowGate.Shadow.Id

/-!
# Ids in documents

An id is written as 32 hexadecimal digits in five groups, and read back from them.

* `Text.hexNumber?_hexDigits` — **digits spell the number they were made of**, up to their width.
* `ShadowId.ofGroups?_groups` — groups are taken apart where they were put together.
* `ShadowId.ofJson?_toJson` — an id is read back.
-/

namespace ShadowGate

/-! ## Digits -/

namespace Text

theorem length_hexDigits (width n : Nat) : (hexDigits width n).length = width := by
  induction width generalizing n with
  | zero => rfl
  | succ width ih => simp [hexDigits, ih]

theorem hexValue?_hexDigit {d : Nat} (hd : d < 16) : hexValue? (hexDigit d) = some d := by
  have hall : ∀ d : Fin 16, hexValue? (hexDigit d) = some d.val := by decide
  exact hall ⟨d, hd⟩

/-- **Digits spell the number they were made of**, up to their width. -/
theorem hexNumber?_hexDigits (width n : Nat) :
    hexNumber? (hexDigits width n) = some (n % 16 ^ width) := by
  induction width generalizing n with
  | zero => simp [hexDigits, hexNumber?, Nat.mod_one]
  | succ width ih =>
    have hdigit : n % 16 < 16 := Nat.mod_lt _ (by decide)
    have hfront := ih (n / 16)
    rw [hexNumber?] at hfront
    rw [hexDigits, hexNumber?, List.foldl_append, hfront]
    simp only [List.foldl_cons, List.foldl_nil, Option.bind_eq_bind, Option.bind_some,
      hexValue?_hexDigit hdigit]
    rw [Nat.pow_succ', Nat.mod_mul, Nat.add_comm]
    rfl

theorem hexDigit_of_mem {width n : Nat} {c : Char} (hc : c ∈ hexDigits width n) :
    ∃ d < 16, c = hexDigit d := by
  induction width generalizing n with
  | zero => cases hc
  | succ width ih =>
    rcases List.mem_append.mp hc with hc | hc
    · exact ih hc
    · exact ⟨n % 16, Nat.mod_lt _ (by decide), List.mem_singleton.mp hc⟩

/-- No digit is a brace. -/
theorem ne_brace_of_mem {width n : Nat} {c : Char} (hc : c ∈ hexDigits width n) : c ≠ '\x7b' := by
  obtain ⟨d, hd, rfl⟩ := hexDigit_of_mem hc
  intro hbrace
  have hvalue := hexValue?_hexDigit hd
  rw [hbrace] at hvalue
  cases hvalue

end Text

/-! ## Groups -/

namespace ShadowId

theorem ofDigits?_digits (id : ShadowId) : ofDigits? id.digits = some id := by
  have hlength : id.digits.length = 32 := Text.length_hexDigits ..
  have hsmall : id.bits.toNat % 16 ^ 32 = id.bits.toNat := Nat.mod_eq_of_lt id.bits.isLt
  rw [ofDigits?, if_pos hlength, digits, Text.hexNumber?_hexDigits, hsmall]
  simp

/-- **Groups are taken apart where they were put together.** -/
theorem ofGroups?_groups {a b c d e : List Char} (ha : a.length = 8) (hb : b.length = 4)
    (hc : c.length = 4) (hd : d.length = 4) (he : e.length = 12) :
    ofGroups? (a ++ '-' :: (b ++ '-' :: (c ++ '-' :: (d ++ '-' :: e)))) =
      ofDigits? (a ++ b ++ c ++ d ++ e) := by
  simp [ofGroups?, ha, hb, hc, hd, he, List.getElem?_append, List.drop_append,
    List.drop_of_length_le]

/-- The digits are the five groups of them. -/
theorem groups_digits (id : ShadowId) :
    id.digits.take 8 ++ (id.digits.drop 8).take 4 ++ (id.digits.drop 12).take 4 ++
      (id.digits.drop 16).take 4 ++ id.digits.drop 20 = id.digits := by
  have hjoin : ∀ (i j : Nat), id.digits.take i ++ (id.digits.drop i).take j =
      id.digits.take (i + j) := fun i j => (List.take_add).symm
  rw [hjoin, hjoin, hjoin, List.take_append_drop]

theorem ofGroups?_groupedChars (id : ShadowId) : ofGroups? id.groupedChars = some id := by
  have hlength : id.digits.length = 32 := Text.length_hexDigits ..
  have hgroups := ofGroups?_groups (a := id.digits.take 8) (b := (id.digits.drop 8).take 4)
    (c := (id.digits.drop 12).take 4) (d := (id.digits.drop 16).take 4) (e := id.digits.drop 20)
    (by simp [hlength]) (by simp [hlength]) (by simp [hlength]) (by simp [hlength])
    (by simp [hlength])
  rw [groups_digits, ofDigits?_digits] at hgroups
  exact hgroups

/-- The groups open with a digit. -/
theorem groupedChars_eq_cons (id : ShadowId) :
    ∃ first rest, first ∈ id.digits ∧ id.groupedChars = first :: rest := by
  have hlength : id.digits.length = 32 := Text.length_hexDigits ..
  rw [groupedChars]
  generalize id.digits = d at hlength
  cases d with
  | nil => cases hlength
  | cons first rest => exact ⟨first, _, List.mem_cons_self .., rfl⟩

/-- What opens with no brace, and has the length of the groups, is read as groups. -/
theorem ofText?_of_length {cs : List Char} {first : Char} {rest : List Char}
    (hcs : cs = first :: rest) (hfirst : first ≠ '\x7b') (hlength : cs.length = 36) :
    ofText? (String.ofList cs) = ofGroups? cs := by
  subst hcs
  rw [ofText?, String.toList_ofList]
  split
  · rename_i hbrace
    exact absurd (List.head_eq_of_cons_eq hbrace) hfirst
  · rw [if_neg (by omega), hlength]
    rfl

/-- **An id is read back.** -/
theorem ofJson?_toJson (id : ShadowId) : ofJson? id.toJson = some id := by
  have hlength : id.groupedChars.length = 36 := by
    have hdigits : id.digits.length = 32 := Text.length_hexDigits ..
    simp [groupedChars, hdigits]
  obtain ⟨first, rest, hfirst, hopens⟩ := id.groupedChars_eq_cons
  rw [ofJson?, toJson, Json.str?, Option.bind_some, grouped,
    ofText?_of_length hopens (Text.ne_brace_of_mem hfirst) hlength, ofGroups?_groupedChars]

end ShadowId

end ShadowGate
