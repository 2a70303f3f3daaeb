import Mathlib.Algebra.Ring.Int.Defs
import Mathlib.Tactic.SplitIfs
import ShadowGate.Json.Reader
import ShadowGate.Proofs.Codec.ShadowId
import ShadowGate.Proofs.SortedMap

/-!
# Compact text that is read back

A store holds values as the bytes of their compact text. The writer escapes what a text may not
hold and leaves no blanks; the reader undoes the escapes, follows lists and objects to a limited
depth and brings objects into normal form. What is written is what is read, for values whose numbers
are whole.

* `Number.ofDigits_natChars`, `Json.value_intChars` — numbers.
* `Json.escapeChar_cases`, `Json.textBody_escape` — texts: each character is escaped in one of three
  ways, and **a text is read back from its escaped form**.
* `Json.value_chars` — **a value is read back from its compact text**, whatever follows it there,
  exactly if it nests no deeper than the reader may go. The fuel exceeds the length of the text. One
  equation for each step of the reader stands before it.
* `Json.Storable`, `Json.ofBytes?_bytes` — **a stored value is read back from its bytes**;
  `Json.ofBytes?_bytes_of_deep` — what nests too deep is not.
-/

namespace ShadowGate

/-! ## Digits -/

namespace Number

theorem natChars_of_lt {n : Nat} (hn : n < 10) : natChars n = [Nat.digitChar n] :=
  Nat.toDigits_of_lt_base hn

theorem natChars_of_le {n : Nat} (hn : 10 ≤ n) :
    natChars n = natChars (n / 10) ++ [Nat.digitChar (n % 10)] :=
  Nat.toDigits_of_base_le (by decide) hn

/-- A number is one digit, or a digit behind a smaller number. -/
theorem digit_induction {motive : Nat → Prop} (digit : ∀ n, n < 10 → motive n)
    (more : ∀ n, 10 ≤ n → motive (n / 10) → motive n) (n : Nat) : motive n := by
  induction n using Nat.strongRecOn with
  | ind n ih =>
    by_cases hn : n < 10
    · exact digit n hn
    · exact more n (Nat.le_of_not_lt hn) (ih (n / 10) (by omega))

/-- What the decimal digits are, and which of them is the zero. -/
theorem digitChar_spec {d : Nat} (hd : d < 10) :
    isDigit (Nat.digitChar d) = true ∧ digitValue (Nat.digitChar d) = d ∧
      (Nat.digitChar d = '0' → d = 0) := by
  have hall : ∀ d : Fin 10, isDigit (Nat.digitChar d) = true ∧
      digitValue (Nat.digitChar d) = d.val ∧ (Nat.digitChar d = '0' → d.val = 0) := by decide
  exact hall ⟨d, hd⟩

theorem lastDigit_spec (n : Nat) :
    isDigit (Nat.digitChar (n % 10)) = true ∧ digitValue (Nat.digitChar (n % 10)) = n % 10 ∧
      (Nat.digitChar (n % 10) = '0' → n % 10 = 0) :=
  digitChar_spec (Nat.mod_lt n (by decide))

theorem isDigit_of_mem_natChars {n : Nat} {c : Char} (hc : c ∈ natChars n) : isDigit c = true := by
  induction n using digit_induction with
  | digit n hn =>
    rw [natChars_of_lt hn, List.mem_singleton] at hc
    rw [hc, (digitChar_spec hn).1]
  | more n hn ih =>
    rw [natChars_of_le hn, List.mem_append, List.mem_singleton] at hc
    rcases hc with hc | rfl
    · exact ih hc
    · exact (lastDigit_spec n).1

/-- No number but zero opens with a zero. -/
theorem natChars_eq_cons (n : Nat) :
    ∃ c cs, natChars n = c :: cs ∧ isDigit c = true ∧ (c = '0' → n = 0) := by
  induction n using digit_induction with
  | digit n hn =>
    obtain ⟨hdigit, -, hzero⟩ := digitChar_spec hn
    exact ⟨_, [], natChars_of_lt hn, hdigit, hzero⟩
  | more n hn ih =>
    obtain ⟨c, cs, hfront, hc, hzero⟩ := ih
    refine ⟨c, cs ++ [Nat.digitChar (n % 10)], ?_, hc, fun h0 => ?_⟩
    · rw [natChars_of_le hn, hfront, List.cons_append]
    · have := hzero h0
      omega

/-- **Digits spell the number they were made of.** -/
theorem ofDigits_natChars (n : Nat) : ofDigits (natChars n) = n := by
  induction n using digit_induction with
  | digit n hn =>
    rw [natChars_of_lt hn]
    simp [ofDigits, (digitChar_spec hn).2.1]
  | more n hn ih =>
    rw [ofDigits] at ih
    rw [natChars_of_le hn, ofDigits, List.foldl_append, ih]
    simp only [List.foldl_cons, List.foldl_nil, (lastDigit_spec n).2.1]
    exact Nat.div_add_mod n 10

/-- Digits are split off in front of what is none. -/
theorem spanDigits_natChars (n : Nat) {rest : List Char}
    (hrest : ∀ c ∈ rest.head?, isDigit c = false) :
    spanDigits (natChars n ++ rest) = (natChars n, rest) := by
  have hall : ∀ c ∈ natChars n, isDigit c = true := fun c hc => isDigit_of_mem_natChars hc
  rw [spanDigits, List.takeWhile_append_of_pos hall, List.dropWhile_append_of_pos hall]
  cases rest with
  | nil => simp
  | cons c rest => simp [hrest c rfl]

end Number

namespace Json

theorem accumulate_append {a b : Nat} {cs : List Char} (h : accumulate a cs = (b, []))
    (ds : List Char) : accumulate a (cs ++ ds) = accumulate b ds := by
  induction cs generalizing a with
  | nil =>
    obtain ⟨rfl, -⟩ := Prod.mk.inj h
    rfl
  | cons c cs ih =>
    rw [accumulate] at h
    rw [List.cons_append, accumulate]
    split at h
    · rename_i hnext
      rw [if_pos hnext, ih h]
    · cases h

/-- The digits of a number of 64 bits are all taken into the significand. -/
theorem accumulate_natChars {n : Nat} (hn : n < Number.nat64Bound) :
    accumulate 0 (Number.natChars n) = (n, []) := by
  induction n using Number.digit_induction with
  | digit n hdigit =>
    rw [Number.natChars_of_lt hdigit]
    simp [accumulate, (Number.digitChar_spec hdigit).2.1, hn]
  | more n hmore ih =>
    have hsplit : 10 * (n / 10) + n % 10 = n := Nat.div_add_mod n 10
    rw [Number.natChars_of_le hmore, accumulate_append (ih (by omega))]
    simp [accumulate, (Number.lastDigit_spec n).2.1, hsplit, hn]

/-- What stands after a value of compact text: nothing, a comma, or a closing mark. -/
def Ends (rest : List Char) : Prop := ∀ c ∈ rest.head?, c = ',' ∨ c = ']' ∨ c = '\x7d'

theorem wholeDigits_natChars (n : Nat) {rest : List Char} (hrest : Ends rest) :
    wholeDigits (Number.natChars n ++ rest) = some (Number.natChars n, rest) := by
  have hspan : Number.spanDigits (Number.natChars n ++ rest) = (Number.natChars n, rest) := by
    refine Number.spanDigits_natChars n fun c hc => ?_
    rcases hrest c hc with rfl | rfl | rfl <;> rfl
  obtain ⟨c, cs, hchars, -, hzero⟩ := Number.natChars_eq_cons n
  rw [wholeDigits, hspan]
  by_cases hc : c = '0'
  · rw [hzero hc]
    rfl
  · simp [hchars, hc]

theorem fractional_natChars {n : Nat} (hn : n < Number.nat64Bound) {rest : List Char}
    (hrest : Ends rest) : fractional (Number.natChars n) rest = some (none, rest) := by
  rw [fractional, accumulate_natChars hn]
  cases rest with
  | nil => rfl
  | cons c rest => rcases hrest c rfl with rfl | rfl | rfl <;> rfl

theorem numberBody_false_natChars {n : Nat} (hn : n < Number.nat64Bound) {rest : List Char}
    (hrest : Ends rest) : numberBody false (Number.natChars n ++ rest) = some (.int n, rest) := by
  simp [numberBody, wholeDigits_natChars n hrest, fractional_natChars hn hrest,
    Number.ofDigits_natChars]

theorem numberBody_true_natChars {n : Nat} (hpos : 0 < n) (hn : n ≤ 2 ^ 63) {rest : List Char}
    (hrest : Ends rest) : numberBody true (Number.natChars n ++ rest) = some (.int (-n), rest) := by
  have hsmall : n < Number.nat64Bound := by
    rw [Number.nat64Bound]
    omega
  simp [numberBody, wholeDigits_natChars n hrest, fractional_natChars hsmall hrest,
    Number.ofDigits_natChars, hpos, show n ≤ 9223372036854775808 from hn]

/-! ## Text -/

/-- A character is escaped by a letter, escaped by its number, or left as it is. -/
theorem escapeChar_cases (c : Char) :
    (∃ letter, letter ≠ 'u' ∧ escapeLetter? letter = some c ∧ escapeChar c = ['\\', letter]) ∨
    (c.toNat < 0x20 ∧ escapeChar c = '\\' :: 'u' :: Text.hexDigits 4 c.toNat) ∨
    (c ≠ '"' ∧ c ≠ '\\' ∧ ¬ c.toNat < 0x20 ∧ escapeChar c = [c]) := by
  rw [escapeChar]
  split_ifs with hquote hslash hb hf hn hr ht hcontrol
  · exact .inl ⟨'"', by decide, by rw [hquote]; rfl, rfl⟩
  · exact .inl ⟨'\\', by decide, by rw [hslash]; rfl, rfl⟩
  · exact .inl ⟨'b', by decide, by rw [hb]; rfl, rfl⟩
  · exact .inl ⟨'f', by decide, by rw [hf]; rfl, rfl⟩
  · exact .inl ⟨'n', by decide, by rw [hn]; rfl, rfl⟩
  · exact .inl ⟨'r', by decide, by rw [hr]; rfl, rfl⟩
  · exact .inl ⟨'t', by decide, by rw [ht]; rfl, rfl⟩
  · exact .inr (.inl ⟨hcontrol, rfl⟩)
  · exact .inr (.inr ⟨hquote, hslash, hcontrol, rfl⟩)

theorem textBody_letter {letter c : Char} (hu : letter ≠ 'u') (hc : escapeLetter? letter = some c)
    (rest : List Char) : textBody ('\\' :: letter :: rest) = consText c (textBody rest) := by
  simp [textBody, hu, hc]

/-- A number below those of pairs is read as the character that has it. -/
theorem textBody_number {n : Nat} (hn : n < 0xD800) (rest : List Char) :
    textBody ('\\' :: 'u' :: (Text.hexDigits 4 n ++ rest)) =
      consText (Char.ofNat n) (textBody rest) := by
  have hnumber : Text.hexNumber? (Text.hexDigits 4 n) = some n := by
    rw [Text.hexNumber?_hexDigits, Nat.mod_eq_of_lt (by omega)]
  have hlength := Text.length_hexDigits 4 n
  match hdigits : Text.hexDigits 4 n, hlength with
  | [a, b, c, d], _ =>
    rw [hdigits] at hnumber
    have hhigh : isHighUnit n = false := by
      simp only [isHighUnit, Bool.and_eq_false_iff, decide_eq_false_iff_not]
      omega
    have hlow : isLowUnit n = false := by
      simp only [isLowUnit, Bool.and_eq_false_iff, decide_eq_false_iff_not]
      omega
    simp [textBody, hnumber, hhigh, hlow]

theorem textBody_escapeChar (c : Char) (rest : List Char) :
    textBody (escapeChar c ++ rest) = consText c (textBody rest) := by
  rcases escapeChar_cases c with ⟨letter, hu, hletter, hform⟩ | ⟨hcontrol, hform⟩ |
    ⟨hquote, hslash, hplain, hform⟩
  · rw [hform]
    exact textBody_letter hu hletter rest
  · rw [hform, List.cons_append, List.cons_append, textBody_number (by omega), Char.ofNat_toNat]
  · rw [hform, List.singleton_append]
    simp [textBody, hslash, hplain]

/-- **A text is read back from its escaped form.** -/
theorem textBody_escape (cs rest : List Char) :
    textBody (escape cs ++ '"' :: rest) = some (cs, rest) := by
  induction cs with
  | nil => rfl
  | cons c cs ih =>
    rw [escape, List.append_assoc, textBody_escapeChar, ih]
    rfl

/-! ## Values -/

mutual

/-- **Every number is a whole one** of 64 bits, with a sign or without. -/
def Whole : Json → Prop
  | .int n => -2 ^ 63 ≤ n ∧ n < 2 ^ 64
  | .float _ => False
  | .arr items => WholeItems items
  | .obj fields => WholeFields fields
  | _ => True

/-- `Whole` for every item. -/
def WholeItems : List Json → Prop
  | [] => True
  | v :: rest => Whole v ∧ WholeItems rest

/-- `Whole` for every field's value. -/
def WholeFields : List (String × Json) → Prop
  | [] => True
  | (_, v) :: rest => Whole v ∧ WholeFields rest

end

mutual

/-- How deep lists and objects nest. -/
def depth : Json → Nat
  | .arr items => depthItems items + 1
  | .obj fields => depthFields fields + 1
  | _ => 0

/-- The depth of the deepest item. -/
def depthItems : List Json → Nat
  | [] => 0
  | v :: rest => max (depth v) (depthItems rest)

/-- The depth of the deepest field's value. -/
def depthFields : List (String × Json) → Nat
  | [] => 0
  | (_, v) :: rest => max (depth v) (depthFields rest)

end

theorem depthItems_cons_le {v : Json} {items : List Json} {n : Nat} :
    depthItems (v :: items) ≤ n ↔ v.depth ≤ n ∧ depthItems items ≤ n := by
  rw [depthItems, Nat.max_le]

theorem depthFields_cons_le {name : String} {v : Json} {fields : List (String × Json)} {n : Nat} :
    depthFields ((name, v) :: fields) ≤ n ↔ v.depth ≤ n ∧ depthFields fields ≤ n := by
  rw [depthFields, Nat.max_le]

theorem skip_cons {c : Char} (hc : isGap c = false) (cs : List Char) :
    skip (c :: cs) = c :: cs := by
  simp [skip, hc]

theorem isGap_of_isDigit {c : Char} (hc : Number.isDigit c = true) : isGap c = false := by
  refine Bool.eq_false_iff.mpr fun hgap => ?_
  simp only [isGap, Bool.or_eq_true, beq_iff_eq] at hgap
  rcases hgap with ((rfl | rfl) | rfl) | rfl <;> exact absurd hc (by decide)

/-- What opens with a digit is read as a number. -/
theorem value_digit (fuel depth : Nat) {c : Char} (hc : Number.isDigit c = true) (cs : List Char) :
    value (fuel + 1) depth (c :: cs) = numberBody false (c :: cs) := by
  rw [value, skip_cons (isGap_of_isDigit hc)]
  split
  case h_8 => rfl
  -- every other case opens with a mark that is no digit
  all_goals
    rename_i heq
    obtain ⟨rfl, -⟩ := List.cons.inj heq
    exact absurd hc (by decide)

theorem value_intChars (fuel depth : Nat) {n : Int} (hn : -2 ^ 63 ≤ n ∧ n < 2 ^ 64)
    {rest : List Char} (hrest : Ends rest) :
    value (fuel + 1) depth (Number.intChars n ++ rest) = some (.int n, rest) := by
  rw [Number.intChars]
  split
  · rename_i hneg
    have hread := numberBody_true_natChars (n := n.natAbs) (by omega) (by omega) hrest
    have hvalue : -(n.natAbs : Int) = n := by omega
    rw [hvalue] at hread
    rw [value]
    exact hread
  · rename_i hpos
    obtain ⟨c, cs, hchars, hc, -⟩ := Number.natChars_eq_cons n.natAbs
    have hread := numberBody_false_natChars (n := n.natAbs)
      (by rw [Number.nat64Bound]; omega) hrest
    have hvalue : (n.natAbs : Int) = n := by omega
    rw [hchars, List.cons_append, hvalue] at hread
    rw [hchars, List.cons_append, value_digit fuel depth hc, hread]

/-- The text of a value opens with no blank and with no closing bracket. -/
theorem chars_eq_cons {v : Json} (hv : v.Whole) :
    ∃ c cs, v.chars = c :: cs ∧ isGap c = false ∧ c ≠ ']' := by
  match v with
  | .null | .bool true | .bool false | .str _ | .arr [] | .arr (_ :: _) | .obj []
  | .obj ((_, _) :: _) => exact ⟨_, _, rfl, by decide, by decide⟩
  | .int n =>
    rw [chars, Number.intChars]
    split
    · exact ⟨_, _, rfl, by decide, by decide⟩
    · obtain ⟨c, cs, hchars, hc, -⟩ := Number.natChars_eq_cons n.natAbs
      refine ⟨c, cs, hchars, isGap_of_isDigit hc, ?_⟩
      rintro rfl
      exact absurd hc (by decide)
  | .float _ => exact hv.elim

theorem ends_charsItems (items : List Json) (rest : List Char) :
    Ends (charsItems items ++ rest) := by
  cases items <;> simp [charsItems, Ends]

theorem ends_charsFields (fields : List (String × Json)) (rest : List Char) :
    Ends (charsFields fields ++ rest) := by
  cases fields <;> simp [charsFields, Ends]

/-! ### One step of the reader -/

section Steps

variable {v : Json} (fuel depth : Nat) (cs rest : List Char)

theorem value_text (s : String) :
    value (fuel + 1) depth (quoted s ++ rest) = some (.str s, rest) := by
  rw [quoted, List.cons_append, List.append_assoc, value, skip_cons (by decide)]
  simp [textBody_escape]

/-- Where the reader may go no deeper, it takes no list and no object. -/
theorem value_bracket_zero : value (fuel + 1) 0 ('[' :: cs) = none := by
  rw [value, skip_cons (by decide)]
  rfl

theorem value_brace_zero : value (fuel + 1) 0 ('\x7b' :: cs) = none := by
  rw [value, skip_cons (by decide)]
  rfl

/-- A list that has a first item. -/
theorem value_item (hv : v.Whole) :
    value (fuel + 1) (depth + 1) ('[' :: (v.chars ++ cs)) =
      (value fuel depth (v.chars ++ cs)).bind fun first =>
        (moreItems fuel depth first.2).bind fun more =>
          some (.arr (first.1 :: more.1), more.2) := by
  obtain ⟨c, tail, hopens, hgap, hbracket⟩ := chars_eq_cons hv
  rw [hopens, List.cons_append, value, skip_cons (by decide)]
  simp only [skip_cons hgap]
  split
  · rename_i heq
    exact absurd (List.cons.inj heq).1 hbracket
  · rfl

theorem moreItems_item :
    moreItems (fuel + 1) depth (',' :: cs) =
      (value fuel depth cs).bind fun first =>
        (moreItems fuel depth first.2).bind fun more => some (first.1 :: more.1, more.2) := by
  rw [moreItems, skip_cons (by decide)]
  rfl

theorem field_quoted (name : String) :
    field (fuel + 1) depth (quoted name ++ ':' :: cs) =
      (value fuel depth cs).bind fun first => some ((name, first.1), first.2) := by
  rw [quoted, List.cons_append, List.append_assoc, field, skip_cons (by decide)]
  simp [textBody_escape, skip_cons (c := ':') (by decide)]

/-- An object that has a first field. -/
theorem value_field (name : String) :
    value (fuel + 2) (depth + 1) ('\x7b' :: (quoted name ++ ':' :: cs)) =
      (value fuel depth cs).bind fun first =>
        (moreFields (fuel + 1) depth first.2).bind fun more =>
          some (.obj ((name, first.1) :: more.1), more.2) := by
  have hfield := field_quoted fuel depth cs name
  obtain ⟨tail, htail⟩ : ∃ tail, quoted name ++ ':' :: cs = '"' :: tail := ⟨_, rfl⟩
  rw [htail] at hfield ⊢
  rw [value, skip_cons (by decide)]
  simp [skip_cons (c := '"') (by decide), hfield, Option.bind_assoc]

theorem moreFields_field (name : String) :
    moreFields (fuel + 2) depth (',' :: (quoted name ++ ':' :: cs)) =
      (value fuel depth cs).bind fun first =>
        (moreFields (fuel + 1) depth first.2).bind fun more =>
          some ((name, first.1) :: more.1, more.2) := by
  rw [moreFields, skip_cons (by decide)]
  simp [field_quoted, Option.bind_assoc]

end Steps

/-! ### The whole text of a value -/

mutual

/-- **A value is read back from its compact text**, whatever follows it there, exactly if it nests
no deeper than the reader may go. -/
theorem value_chars (v : Json) (fuel depth : Nat) {rest : List Char} (hwhole : v.Whole)
    (hfuel : v.chars.length ≤ fuel) (hrest : Ends rest) :
    value (fuel + 1) depth (v.chars ++ rest) =
      if v.depth ≤ depth then some (v, rest) else none := by
  match v with
  | .null => rw [value]; rfl
  | .bool true => rw [value]; rfl
  | .bool false => rw [value]; rfl
  | .int n => exact value_intChars fuel depth hwhole hrest
  | .float _ => exact hwhole.elim
  | .str s => exact value_text fuel depth rest s
  | .arr [] =>
    cases depth with
    | zero => exact value_bracket_zero fuel _
    | succ depth => rw [value]; rfl
  | .arr (v :: items) =>
    rw [chars, List.length_cons, List.length_append] at hfuel
    obtain ⟨fuel, rfl⟩ := Nat.exists_eq_add_one_of_ne_zero (n := fuel) (by omega)
    rw [chars, List.cons_append, List.append_assoc]
    cases depth with
    | zero => exact value_bracket_zero _ _
    | succ depth =>
      rw [value_item _ _ _ hwhole.1, value_chars v fuel depth hwhole.1 (by omega)
        (ends_charsItems items rest)]
      have hmore := moreItems_charsItems items fuel depth rest hwhole.2 (by omega)
      by_cases hv : v.depth ≤ depth <;> by_cases hitems : depthItems items ≤ depth <;>
        simp [hv, hitems, hmore, Json.depth, depthItems_cons_le]
  | .obj [] =>
    cases depth with
    | zero => exact value_brace_zero fuel _
    | succ depth => rw [value]; rfl
  | .obj ((name, v) :: fields) =>
    simp only [chars, List.length_cons, List.length_append] at hfuel
    obtain ⟨fuel, rfl⟩ := Nat.exists_eq_add_of_le' (m := 2) (n := fuel) (by omega)
    rw [chars, List.cons_append, List.append_assoc, List.cons_append, List.append_assoc]
    cases depth with
    | zero => exact value_brace_zero _ _
    | succ depth =>
      rw [value_field, value_chars v fuel depth hwhole.1 (by omega) (ends_charsFields fields rest)]
      have hmore := moreFields_charsFields fields (fuel + 1) depth rest hwhole.2 (by omega)
      by_cases hv : v.depth ≤ depth <;> by_cases hfields : depthFields fields ≤ depth <;>
        simp [hv, hfields, hmore, Json.depth, depthFields_cons_le]

/-- **Items are read back.** -/
theorem moreItems_charsItems (items : List Json) (fuel depth : Nat) (rest : List Char)
    (hwhole : WholeItems items) (hfuel : (charsItems items).length ≤ fuel) :
    moreItems (fuel + 1) depth (charsItems items ++ rest) =
      if depthItems items ≤ depth then some (items, rest) else none := by
  match items with
  | [] => rw [moreItems]; rfl
  | v :: items =>
    rw [charsItems, List.length_cons, List.length_append] at hfuel
    obtain ⟨fuel, rfl⟩ := Nat.exists_eq_add_one_of_ne_zero (n := fuel) (by omega)
    rw [charsItems, List.cons_append, List.append_assoc, moreItems_item,
      value_chars v fuel depth hwhole.1 (by omega) (ends_charsItems items rest)]
    have hmore := moreItems_charsItems items fuel depth rest hwhole.2 (by omega)
    by_cases hv : v.depth ≤ depth <;> by_cases hitems : depthItems items ≤ depth <;>
      simp [hv, hitems, hmore, depthItems_cons_le]

/-- **Fields are read back.** -/
theorem moreFields_charsFields (fields : List (String × Json)) (fuel depth : Nat)
    (rest : List Char) (hwhole : WholeFields fields)
    (hfuel : (charsFields fields).length ≤ fuel) :
    moreFields (fuel + 1) depth (charsFields fields ++ rest) =
      if depthFields fields ≤ depth then some (fields, rest) else none := by
  match fields with
  | [] => rw [moreFields]; rfl
  | (name, v) :: fields =>
    simp only [charsFields, List.length_cons, List.length_append] at hfuel
    obtain ⟨fuel, rfl⟩ := Nat.exists_eq_add_of_le' (m := 2) (n := fuel) (by omega)
    rw [charsFields, List.cons_append, List.append_assoc, List.cons_append, List.append_assoc,
      moreFields_field, value_chars v fuel depth hwhole.1 (by omega) (ends_charsFields fields rest)]
    have hmore := moreFields_charsFields fields (fuel + 1) depth rest hwhole.2 (by omega)
    by_cases hv : v.depth ≤ depth <;> by_cases hfields : depthFields fields ≤ depth <;>
      simp [hv, hfields, hmore, depthFields_cons_le]

end

/-! ## Normal form -/

mutual

/-- A value in normal form stays as it is. -/
theorem normalize_of_normal {v : Json} (hv : v.Normal) : v.normalize = v := by
  match v with
  | .null | .bool _ | .int _ | .float _ | .str _ => rfl
  | .arr items => rw [normalize, normalizeItems_of_normal hv]
  | .obj fields =>
    rw [normalize, normalizeFields_of_normal hv.2, object, foldl_insertPair_of_keySorted hv.1]

theorem normalizeItems_of_normal {items : List Json} (h : NormalItems items) :
    normalizeItems items = items := by
  match items with
  | [] => rfl
  | v :: items => rw [normalizeItems, normalize_of_normal h.1, normalizeItems_of_normal h.2]

theorem normalizeFields_of_normal {fields : List (String × Json)} (h : NormalFields fields) :
    normalizeFields fields = fields := by
  match fields with
  | [] => rfl
  | (name, v) :: fields =>
    rw [normalizeFields, normalize_of_normal h.1, normalizeFields_of_normal h.2]

end

/-! ## Stored values -/

/-- **A value that a store keeps exactly**: its numbers are whole ones of 64 bits, it nests no
deeper than the reader follows, and every object has its names in order, each once. -/
structure Storable (v : Json) : Prop where
  /-- every number is a whole one of 64 bits -/
  whole : v.Whole
  /-- the reader follows it to its end -/
  shallow : v.depth ≤ maxDepth
  /-- every object is a map of its names -/
  normal : v.Normal

theorem readChars_chars {v : Json} (hwhole : v.Whole) :
    readChars v.chars = if v.depth ≤ maxDepth then some v else none := by
  have hend : Ends [] := fun c hc => nomatch hc
  have hread := value_chars v (2 * v.chars.length + 1) maxDepth hwhole (by omega) hend
  rw [List.append_nil] at hread
  rw [readChars, hread]
  split <;> rfl

theorem ofBytes?_bytes_of_whole {v : Json} (hwhole : v.Whole) :
    ofBytes? v.bytes = if v.depth ≤ maxDepth then some v.normalize else none := by
  rw [bytes, ofBytes?, Text.ofBytes?_toBytes, Option.bind_some, read, readRaw, text,
    String.toList_ofList, readChars_chars hwhole]
  split <;> rfl

/-- **A stored value is read back from its bytes.** -/
theorem ofBytes?_bytes {v : Json} (hv : v.Storable) : ofBytes? v.bytes = some v := by
  rw [ofBytes?_bytes_of_whole hv.whole, if_pos hv.shallow, normalize_of_normal hv.normal]

/-- **A value that nests too deep is written, but not read back.** -/
theorem ofBytes?_bytes_of_deep {v : Json} (hwhole : v.Whole) (hdeep : maxDepth < v.depth) :
    ofBytes? v.bytes = none := by
  rw [ofBytes?_bytes_of_whole hwhole, if_neg (Nat.not_le.mpr hdeep)]

end Json

end ShadowGate
