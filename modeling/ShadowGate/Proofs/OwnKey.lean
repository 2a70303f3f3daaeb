import ShadowGate.Change

/-!
# Keys of changes that name none

A change whose payload names no key is put at its own: its type, a slash and its number. A type is
any text and may hold slashes and digits itself, but the number starts after the last slash of the
key, so changes with different numbers never share a key.

* `ChangeEntry.id_eq_of_ownKey_eq` — the own key tells the number, and with it the type:
  `ChangeEntry.ownKey_eq_iff`.
* `ChangeEntry.key_eq_ownKey_iff` — what is put at the own key of a change.
* `Numbered` — a log whose changes are numbered from one on, without a gap; `Numbered.concat` is one
  more change, `Numbered.ownKeys` what follows for the keys.
-/

namespace ShadowGate

/-! ## Numbers as text -/

theorem Number.natText_injective {m n : Nat} (h : natText m = natText n) : m = n := by
  have hdigits : Nat.toDigits 10 m = Nat.toDigits 10 n := by
    simpa [natText, natChars] using congrArg String.toList h
  have hvalue := congrArg (fun digits => Nat.ofDigitChars 10 digits 0) hdigits
  simpa using hvalue

theorem Number.slash_not_mem_natText (n : Nat) : '/' ∉ (natText n).toList := by
  intro hmem
  have hdigit : '/' ∈ Nat.toDigits 10 n := by simpa [natText, natChars] using hmem
  exact absurd (Nat.isDigit_of_mem_toDigits (by decide) (by decide) hdigit) (by decide)

/-! ## Own keys -/

/-- If what follows the first slash of a text has none, nothing stands in front of its last slash.
-/
theorem eq_of_slash_cons {a b front : List Char} (ha : '/' ∉ a)
    (h : '/' :: a = front ++ '/' :: b) : a = b := by
  cases front with
  | nil => exact List.tail_eq_of_cons_eq h
  | cons c rest =>
    refine absurd ?_ ha
    rw [List.tail_eq_of_cons_eq h]
    exact List.mem_append_right _ (List.mem_cons_self ..)

/-- What follows the last slash is determined by the whole. -/
theorem eq_of_append_slash {k k' a b : List Char} (ha : '/' ∉ a) (hb : '/' ∉ b)
    (h : k ++ '/' :: a = k' ++ '/' :: b) : a = b := by
  -- one of the two fronts is a part of the other
  rcases List.append_eq_append_iff.mp h with ⟨between, -, htail⟩ | ⟨between, -, htail⟩
  · exact eq_of_slash_cons ha htail
  · exact (eq_of_slash_cons hb htail).symm

/-- **The own key of a change tells its number**, whatever the types of the changes. -/
theorem ChangeEntry.id_eq_of_ownKey_eq {e f : ChangeEntry} (h : e.ownKey = f.ownKey) :
    e.id = f.id := by
  have hchars : e.kind.toList ++ '/' :: (Number.natText e.id).toList =
      f.kind.toList ++ '/' :: (Number.natText f.id).toList := by
    simpa [ownKey, String.toList_append] using congrArg String.toList h
  have hnumber := eq_of_append_slash (Number.slash_not_mem_natText e.id)
    (Number.slash_not_mem_natText f.id) hchars
  exact Number.natText_injective (String.toList_injective hnumber)

/-- Own keys are the same for the same type and number, and for no others. -/
theorem ChangeEntry.ownKey_eq_iff {e f : ChangeEntry} :
    e.ownKey = f.ownKey ↔ e.kind = f.kind ∧ e.id = f.id := by
  constructor
  · intro h
    have hid := id_eq_of_ownKey_eq h
    rw [ownKey, ownKey, hid, String.append_assoc, String.append_assoc] at h
    exact ⟨String.append_left_inj _ |>.mp h, hid⟩
  · rintro ⟨hkind, hid⟩
    rw [ownKey, ownKey, hkind, hid]

/-- A change whose payload names no key is put at its own. -/
theorem ChangeEntry.key_of_keyless {e : ChangeEntry} (he : e.payloadKey = none) :
    e.mutation.key = e.ownKey := by
  rw [mutation]
  rw [he]
  rfl

/-- A change whose payload names a key is about that one. -/
theorem ChangeEntry.key_of_payloadKey {e : ChangeEntry} {key : String}
    (he : e.payloadKey = some key) : e.mutation.key = key := by
  rw [mutation, he]
  dsimp only
  split <;> rfl

/-- **What is put at the own key of a change**: a change that names the key, or one that names none
and has the same type and number. -/
theorem ChangeEntry.key_eq_ownKey_iff {e f : ChangeEntry} :
    e.mutation.key = f.ownKey ↔
      e.payloadKey = some f.ownKey ∨ e.payloadKey = none ∧ e.kind = f.kind ∧ e.id = f.id := by
  cases he : e.payloadKey with
  | some key => simp [key_of_payloadKey he]
  | none => simp [key_of_keyless he, ownKey_eq_iff]

/-! ## Numbered logs -/

/-- The changes of a log are numbered one, two, three and so on. -/
def Numbered (log : List ChangeEntry) : Prop :=
  log.map ChangeEntry.id = List.range' 1 log.length

theorem numbered_nil : Numbered [] := rfl

/-- One more change, with the next number. -/
theorem Numbered.concat {log : List ChangeEntry} (h : Numbered log) {e : ChangeEntry}
    (he : e.id = log.length + 1) : Numbered (log ++ [e]) := by
  rw [Numbered] at h ⊢
  rw [List.map_append, h, List.length_append, List.length_singleton, List.range'_1_concat]
  simp [he, Nat.add_comm]

/-- **No two changes of a numbered log that name no key are put at the same one.** -/
theorem Numbered.ownKeys {log : List ChangeEntry} (h : Numbered log) :
    log.Pairwise fun e f =>
      e.payloadKey = none → f.payloadKey = none → e.mutation.key ≠ f.mutation.key := by
  have hids : (log.map ChangeEntry.id).Pairwise (· < ·) := by
    rw [h]
    exact List.pairwise_lt_range' 1
  refine List.Pairwise.imp ?_ (List.pairwise_map.mp hids)
  intro e f hlt he hf hkey
  rw [ChangeEntry.key_of_keyless he, ChangeEntry.key_of_keyless hf] at hkey
  exact absurd (ChangeEntry.id_eq_of_ownKey_eq hkey) (Nat.ne_of_lt hlt)

end ShadowGate
