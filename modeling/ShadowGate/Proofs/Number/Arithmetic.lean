import Mathlib
import ShadowGate.Proofs.Number.Order
import ShadowGate.Proofs.Number.Rounding

/-!
# Arithmetic of doubles

Sums, differences and products of doubles are computed on values and packed into bits. Here this is
said in integers: a double has a value in units of the least positive one, comparing doubles is
comparing their values, and a sum is the exact sum of the values, rounded and cut at the limit of
finite doubles. That rounding is monotone is all that the order of results rests on.

* `Number.Proper`, `Number.proper_unpack`, `Number.unpack_pack` — the values that bits stand for, and
  **that packing loses nothing of them**.
* `Number.value`, `Number.le_iff_value_le` — **comparing defined doubles is comparing their values**.
* `Number.settled_add`, `Number.units_pack` — a sum of finite values, exact and then rounded; packing
  cuts it at the limit.
* `Number.add_le_add_const`, `Number.sub_le_sub_const` — **adding or subtracting a finite double
  preserves the order**, whether or not the results are finite.
* `Number.mul_le_of_le_one` — **a factor in the unit interval does not raise** what is not negative.

What is known of the sign in packed bits comes with the whole library only, hence the import.
-/

namespace ShadowGate.Number

open Float.Model
open Float.Model.UnpackedFloat

/-! ## The values of doubles -/

theorem Canonical.lt_limit {m t : ℕ} (h : Canonical m t) (ht : t ≤ 2045) : m * 2 ^ t < limit := by
  have hm : m * 2 ^ t < 2 ^ 53 * 2 ^ t := Nat.mul_lt_mul_of_pos_right h.lt (Nat.two_pow_pos t)
  rw [← pow_add] at hm
  rw [limit]
  exact hm.trans_le (pow_le_pow_right₀ one_le_two (by omega))

theorem Canonical.limit_le {m t : ℕ} (h : Canonical m t) (ht : 2045 < t) : limit ≤ m * 2 ^ t := by
  rw [limit, pow_add]
  exact Nat.mul_le_mul (h.full (by omega)) (pow_le_pow_right₀ one_le_two ht)

/-- **A value that a double can have**: an infinity, or a zero or finite value in canonical form whose
exponent is not too large. -/
def Proper : UnpackedFloat → Prop
  | .zero _ => True
  | .finite _ m e _ => -1074 ≤ e ∧ e ≤ 971 ∧ Canonical m (e + 1074).toNat
  | .infinity _ => True
  | .notANumber => False

/-! ### Bits -/

theorem toNat_append_one (m : BitVec 52) : (1#1 ++ m).toNat = 2 ^ 52 + m.toNat := by
  rw [BitVec.toNat_append, ← Nat.shiftLeft_add_eq_or_of_lt m.isLt]
  rfl

/-- The value that three fields of bits stand for. -/
def ofFields (s : Sign) (e : BitVec 11) (m : BitVec 52) : UnpackedFloat :=
  if e = -1#11 then if m = 0#52 then .infinity s else .notANumber
  else if e = 0#11 then
    if h : m = 0#52 then .zero s
    else .finite s m.toNat (-1074) (by simpa [BitVec.toNat_pos, BitVec.pos_iff_ne_zero])
  else .finite s (1#1 ++ m).toNat ((e.toNat : ℤ) - 1075) (by rw [toNat_append_one]; omega)

theorem unpack_eq_ofFields (b : BitVec 64) :
    UnpackedFloat.unpack .binary64 b =
      ofFields (Sign.ofBitVec (@unpackSign .binary64 b))
        (@unpackExponent .binary64 b) (@unpackMantissa .binary64 b) := by
  have hbias : (Format.binary64.exponentBias : ℤ) + (52 : ℕ) = 1075 := rfl
  rw [UnpackedFloat.unpack, ofFields]
  simp only [hbias]
  split
  · rfl
  · split
    · rename_i h0
      simp only [h0]
      rfl
    · rfl

/-- **The bits of a double hold a canonical form.** -/
theorem proper_ofFields {s : Sign} {e : BitVec 11} {m : BitVec 52}
    (h : ofFields s e m ≠ .notANumber) : Proper (ofFields s e m) := by
  have hm := m.isLt
  have he := e.isLt
  rw [ofFields] at h ⊢
  split
  · rename_i hlast
    rw [if_pos hlast] at h
    split
    · trivial
    · rename_i hne
      exact absurd (if_neg hne) h
  · rename_i hlast
    have he' : e.toNat ≠ 2047 := fun heq => hlast (BitVec.eq_of_toNat_eq heq)
    split
    · split
      · trivial
      · exact ⟨by decide, by decide, ⟨by omega, fun ht => absurd ht (by decide)⟩⟩
    · rename_i hfirst
      have he0 : e.toNat ≠ 0 := fun heq => hfirst (BitVec.eq_of_toNat_eq heq)
      refine ⟨by omega, by omega, ⟨?_, fun _ => ?_⟩⟩ <;> rw [toNat_append_one] <;> omega

theorem proper_unpack {x : Float} (hx : x.isNaN = false) : Proper x.toModel.unpack := by
  have hne := unpack_ne_of_isNaN hx
  rw [Float.Model.unpack, unpack_eq_ofFields] at hne ⊢
  exact proper_ofFields hne

theorem unpack_packComponents (s : Sign) (e : BitVec 11) (m : BitVec 52) :
    UnpackedFloat.unpack .binary64 (packComponents .binary64 s e m) = ofFields s e m := by
  rw [unpack_eq_ofFields, unpackSign_packComponents, Sign.ofBitVec_toBitVec,
    unpackExponent_packComponents, unpackMantissa_packComponents]

/-- What packing makes of a finite value, by the place of its exponent. -/
theorem pack_finite (s : Sign) {m : ℕ} {e : ℤ} (hpos : 0 < m) :
    UnpackedFloat.pack .binary64 (.finite s m e hpos) =
      if 2047 ≤ (e + 1075).toNat then packedInfinity .binary64 s
      else if m.log2 = 52 then
        packComponents .binary64 s (BitVec.ofNat 11 (e + 1075).toNat) (BitVec.ofNat 52 m)
      else packComponents .binary64 s 0#11 (BitVec.ofNat 52 m) := by
  have hbiased : (e + (Format.binary64.exponentBias : ℕ) + (52 : ℕ)).toNat = (e + 1075).toNat := by
    change (e + 1023 + 52).toNat = _
    omega
  rw [UnpackedFloat.pack]
  simp only [hbiased]
  have hbits : Format.binary64.mantissaBits = 53 := rfl
  have hlarge : 2 ^ 11 ≤ (e + 1075).toNat + 1 ↔ 2047 ≤ (e + 1075).toNat := by omega
  have hnormal : m.log2 + 1 = Format.binary64.mantissaBits ↔ m.log2 = 52 := by omega
  simp only [hlarge, hnormal]

/-- **A value that a double can have is what its bits stand for.** -/
theorem unpack_pack {u : UnpackedFloat} (h : Proper u) :
    UnpackedFloat.unpack .binary64 (UnpackedFloat.pack .binary64 u) = u := by
  cases u with
  | notANumber => exact h.elim
  | zero s => exact unpack_packComponents s 0 0
  | infinity s => exact unpack_packComponents s (-1#11) 0
  | finite s m e hpos =>
    obtain ⟨hmin, hmax, hcanonical⟩ := h
    have hsmall : ¬ 2047 ≤ (e + 1075).toNat := by omega
    have hm := hcanonical.lt
    rw [pack_finite, if_neg hsmall]
    split
    · rename_i hlog
      have hfull : 2 ^ 52 ≤ m := (Nat.le_log2 hpos.ne').mp hlog.ge
      have hk : (BitVec.ofNat 11 (e + 1075).toNat).toNat = (e + 1075).toNat := by
        rw [BitVec.toNat_ofNat, Nat.mod_eq_of_lt (by omega)]
      have hfields : (1#1 ++ BitVec.ofNat 52 m).toNat = m := by
        rw [toNat_append_one, BitVec.toNat_ofNat]
        omega
      have hlast : BitVec.ofNat 11 (e + 1075).toNat ≠ -1#11 := fun heq => by
        have hnat := congrArg BitVec.toNat heq
        rw [hk] at hnat
        exact hsmall hnat.ge
      have hfirst : BitVec.ofNat 11 (e + 1075).toNat ≠ 0#11 := fun heq => by
        have hnat := congrArg BitVec.toNat heq
        rw [hk, BitVec.toNat_zero] at hnat
        omega
      rw [unpack_packComponents, ofFields, if_neg hlast, if_neg hfirst]
      simp only [UnpackedFloat.finite.injEq, hfields, hk, true_and]
      omega
    · rename_i hlog
      -- fewer than 53 bits, so the exponent is the least
      have hlog' : m.log2 < 53 := (Nat.log2_lt hpos.ne').mpr hm
      have hshort : m < 2 ^ 52 := (Nat.log2_lt hpos.ne').mp (by omega)
      have he : e = -1074 := by
        by_contra hne
        exact absurd (hcanonical.full (by omega)) (by omega)
      have hfields : (BitVec.ofNat 52 m).toNat = m := by
        rw [BitVec.toNat_ofNat, Nat.mod_eq_of_lt hshort]
      have hne : BitVec.ofNat 52 m ≠ 0#52 := fun heq => by
        have hnat := congrArg BitVec.toNat heq
        rw [hfields, BitVec.toNat_zero] at hnat
        omega
      rw [unpack_packComponents, ofFields, if_neg (by decide), if_pos rfl, dif_neg hne]
      simp only [hfields, he]

/-- **A finite value whose exponent is too large becomes infinite.** -/
theorem unpack_pack_of_large {s : Sign} {m : ℕ} {e : ℤ} (hpos : 0 < m) (he : 971 < e) :
    UnpackedFloat.unpack .binary64 (UnpackedFloat.pack .binary64 (.finite s m e hpos)) =
      .infinity s := by
  rw [pack_finite, if_pos (by omega)]
  exact unpack_packComponents s (-1#11) 0

/-! ### The order -/

theorem limit_pos : 0 < limit := pow_pos two_pos _

/-- A finite double lies between zero and the limit. -/
theorem Proper.magnitude {s : Sign} {m : ℕ} {e : ℤ} {hpos : 0 < m}
    (h : Proper (.finite s m e hpos)) :
    0 < m * 2 ^ (e + 1074).toNat ∧ m * 2 ^ (e + 1074).toNat < limit := by
  obtain ⟨_, hmax, hcanonical⟩ := h
  exact ⟨Nat.mul_pos hpos (Nat.two_pow_pos _), hcanonical.lt_limit (by omega)⟩

/-- What is not infinite is within the limit. -/
theorem Proper.within {u : UnpackedFloat} (h : Proper u) (hsettled : Settled u) :
    -limit < units u ∧ units u < limit := by
  have hlimit := limit_pos
  cases u with
  | notANumber => exact h.elim
  | infinity s => exact hsettled.elim
  | zero s =>
    simp only [units]
    omega
  | finite s m e hpos =>
    have hbound := h.magnitude
    cases s <;> simp only [units, Sign.apply] <;> omega

/-- Finite doubles of one sign compare by exponent and mantissa. -/
theorem Proper.magnitude_lt_iff {s s' : Sign} {m m' : ℕ} {e e' : ℤ} {hpos : 0 < m}
    {hpos' : 0 < m'} (h : Proper (.finite s m e hpos)) (h' : Proper (.finite s' m' e' hpos')) :
    m * 2 ^ (e + 1074).toNat < m' * 2 ^ (e' + 1074).toNat ↔ e < e' ∨ e = e' ∧ m < m' := by
  obtain ⟨hmin, _, hcanonical⟩ := h
  obtain ⟨hmin', _, hcanonical'⟩ := h'
  rw [hcanonical.lt_iff hcanonical']
  omega

/-- **The place of a value is that of its units.** -/
theorem place_lt_iff {u v : UnpackedFloat} (hu : Proper u) (hv : Proper v) :
    place u < place v ↔ units u < units v := by
  have hlimit := limit_pos
  rcases u with (_ | _) | _ | s | ⟨_ | _, m, e, hm⟩ <;>
    rcases v with (_ | _) | _ | t | ⟨_ | _, m', e', hm'⟩ <;>
    first | exact hu.elim | exact hv.elim | skip
  -- the signs decide, but for two finite values of one sign
  all_goals try have hbound := hu.magnitude
  all_goals try have hbound' := hv.magnitude
  all_goals try have hlt := hu.magnitude_lt_iff hv
  all_goals try have hgt := hv.magnitude_lt_iff hu
  all_goals simp only [place, units, Sign.apply, Prod.Lex.toLex_lt_toLex, true_and]
  all_goals omega

/-- **The value of a double**, in units of the least positive one. -/
def value (x : Float) : ℤ := units x.toModel.unpack

/-- **One defined double is below another** exactly if its value is. -/
theorem lt_iff_value_lt {x y : Float} (hx : x.isNaN = false) (hy : y.isNaN = false) :
    x < y ↔ value x < value y :=
  (lt_iff_rank_lt hx hy).trans (place_lt_iff (proper_unpack hx) (proper_unpack hy))

/-- **One defined double is at most another** exactly if its value is. -/
theorem le_iff_value_le {x y : Float} (hx : x.isNaN = false) (hy : y.isNaN = false) :
    x ≤ y ↔ value x ≤ value y := by
  rw [le_iff_rank_le hx hy, ← not_lt, ← not_lt, not_iff_not]
  exact place_lt_iff (proper_unpack hy) (proper_unpack hx)

/-! ## Arithmetic -/

/-- An integer, cut at the limit of finite doubles. -/
def saturate (z : ℤ) : ℤ := max (-limit) (min z limit)

theorem saturate_mono {z z' : ℤ} (h : z ≤ z') : saturate z ≤ saturate z' := by
  rw [saturate, saturate]
  omega

/-- A zero or finite double is its own value, within the limit. -/
theorem Proper.saturate_eq {u : UnpackedFloat} (h : Proper u) : saturate (units u) = units u := by
  have hlimit := limit_pos
  rw [saturate]
  rcases u with (_ | _) | _ | s | ⟨_ | _, m, e, hm⟩ <;> try have hbound := h.magnitude
  all_goals simp only [units, Sign.apply]
  all_goals omega

/-- **Packing cuts a value at the limit.** -/
theorem units_pack {u : UnpackedFloat} (h : Settled u) :
    (Float.Model.pack u).unpack ≠ .notANumber ∧
      units (Float.Model.pack u).unpack = saturate (units u) := by
  have hpack : (Float.Model.pack u).unpack =
    UnpackedFloat.unpack .binary64 (UnpackedFloat.pack .binary64 u) := rfl
  rw [hpack]
  cases u with
  | notANumber => exact h.elim
  | infinity s => exact h.elim
  | zero s =>
    rw [unpack_pack (u := .zero s) trivial]
    exact ⟨nofun, (Proper.saturate_eq (u := .zero s) trivial).symm⟩
  | finite s m e hpos =>
    obtain ⟨hmin, hcanonical⟩ := h
    by_cases he : e ≤ 971
    · have hproper : Proper (.finite s m e hpos) := ⟨hmin, he, hcanonical⟩
      rw [unpack_pack hproper]
      exact ⟨nofun, hproper.saturate_eq.symm⟩
    · have hlarge := hcanonical.limit_le (by omega)
      rw [unpack_pack_of_large hpos (by omega)]
      refine ⟨nofun, ?_⟩
      rw [saturate]
      cases s <;> simp only [units, Sign.apply] <;> omega

/-- A zero or finite double has a value in canonical form. -/
theorem settled_unpack {x : Float} (hx : x.isFinite = true) :
    Settled x.toModel.unpack := by
  have hproper := proper_unpack (isNaN_of_isFinite hx)
  have hfinite : x.toModel.unpack.isFinite = true := hx
  cases hu : x.toModel.unpack with
  | notANumber => rw [hu] at hfinite; cases hfinite
  | infinity s => rw [hu] at hfinite; cases hfinite
  | zero s => trivial
  | finite s m e hpos =>
    rw [hu] at hproper
    exact ⟨hproper.1, hproper.2.2⟩

/-- What a double can hold is not rounded. -/
theorem Settled.rounded_eq {u : UnpackedFloat} (h : Settled u) : rounded (units u) = units u := by
  cases u with
  | notANumber => exact h.elim
  | infinity s => exact h.elim
  | zero s => rfl
  | finite s m e hpos =>
    have hcanonical := h.2.roundedNat_eq
    cases s with
    | positive => rw [units, Sign.apply, rounded_natCast, hcanonical]
    | negative => rw [units, Sign.apply, rounded_neg_natCast, hcanonical]

/-- A value at an exponent that is not above its own. -/
theorem apply_decreaseExponent (s : Sign) (m : ℕ) {e e' : ℤ} (hmin : -1074 ≤ e') (he : e' ≤ e) :
    s.apply (decreaseExponent m e e').1 * 2 ^ (e' + 1074).toNat =
      s.apply (m * 2 ^ (e + 1074).toNat : ℕ) := by
  have hsplit : (e + 1074).toNat = (e - e').toNat + (e' + 1074).toNat := by omega
  rw [decreaseExponent, Nat.shiftLeft_eq, hsplit, pow_add]
  cases s <;> simp only [Sign.apply] <;> push_cast <;> ring

/-- **The sum of two finite values** is their exact sum, rounded. -/
theorem settled_add {u v : UnpackedFloat} (hu : Settled u) (hv : Settled v) :
    Settled (UnpackedFloat.add .binary64 u v) ∧
      units (UnpackedFloat.add .binary64 u v) = rounded (units u + units v) := by
  cases u with
  | notANumber => exact hu.elim
  | infinity s => exact hu.elim
  | zero s =>
    cases v with
    | notANumber => exact hv.elim
    | infinity s' => exact hv.elim
    | zero s' => cases s <;> cases s' <;> exact ⟨trivial, rfl⟩
    | finite s' m' e' hpos' =>
      have hzero : units (.zero s) + units (.finite s' m' e' hpos') =
        units (.finite s' m' e' hpos') := zero_add _
      rw [hzero, hv.rounded_eq]
      exact ⟨hv, rfl⟩
  | finite s m e hpos =>
    cases v with
    | notANumber => exact hv.elim
    | infinity s' => exact hv.elim
    | zero s' =>
      have hzero : units (.finite s m e hpos) + units (.zero s') =
        units (.finite s m e hpos) := add_zero _
      rw [hzero, hu.rounded_eq]
      exact ⟨hu, rfl⟩
    | finite s' m' e' hpos' =>
      obtain ⟨hmin, _⟩ := hu
      obtain ⟨hmin', _⟩ := hv
      have hleast : -1074 ≤ min e e' := le_min hmin hmin'
      have he : (((min e e' + 1074).toNat : ℕ) : ℤ) - 1074 = min e e' := by omega
      have hsum := settled_normalize
        (s.apply (decreaseExponent m e (min e e')).1 +
          s'.apply (decreaseExponent m' e' (min e e')).1)
        (min e e' + 1074).toNat .positive
      rw [he, add_mul, apply_decreaseExponent s m hleast (min_le_left _ _),
        apply_decreaseExponent s' m' hleast (min_le_right _ _)] at hsum
      exact hsum

theorem apply_neg (s : Sign) (n : ℤ) : (-s).apply n = -(s.apply n) := by
  cases s with
  | negative => exact (neg_neg n).symm
  | positive => rfl

theorem Settled.neg {u : UnpackedFloat} (h : Settled u) : Settled u.neg := by
  cases u with
  | notANumber => exact h.elim
  | infinity s => exact h.elim
  | zero s => trivial
  | finite s m e hpos => exact h

/-- A difference is the sum with the opposite. -/
theorem sub_eq_add_opposite (u v : UnpackedFloat) :
    UnpackedFloat.sub .binary64 u v = UnpackedFloat.add .binary64 u v.neg := by
  cases u <;> cases v <;> try rfl
  -- two finite values
  rename_i s m e hpos s' m' e' hpos'
  simp only [UnpackedFloat.sub, UnpackedFloat.add, UnpackedFloat.neg, apply_neg,
    Int.sub_eq_add_neg]

/-- The sum of two values, as a double holds it. -/
def sum₂ (u v : UnpackedFloat) : UnpackedFloat :=
  (Float.Model.pack (UnpackedFloat.add .binary64 u v)).unpack

theorem sum₂_infinity (s : Sign) {v : UnpackedFloat} (hv : Settled v) :
    sum₂ (.infinity s) v = .infinity s := by
  have hadd : UnpackedFloat.add .binary64 (.infinity s) v = .infinity s := by
    cases v <;> first | rfl | exact hv.elim
  rw [sum₂, hadd]
  exact unpack_pack (u := .infinity s) trivial

/-- **Adding a finite value** gives the exact sum, rounded and cut at the limit; an infinity stays. -/
theorem units_sum₂ {u v : UnpackedFloat} (hu : Proper u) (hv : Settled v) :
    sum₂ u v ≠ .notANumber ∧
      (units u = limit ∧ units (sum₂ u v) = limit ∨
        units u = -limit ∧ units (sum₂ u v) = -limit ∨
        -limit < units u ∧ units u < limit ∧
          units (sum₂ u v) = saturate (rounded (units u + units v))) := by
  have hfinite : Settled u → sum₂ u v ≠ .notANumber ∧ -limit < units u ∧ units u < limit ∧
      units (sum₂ u v) = saturate (rounded (units u + units v)) := by
    intro hsettled
    obtain ⟨hlow, hhigh⟩ := hu.within hsettled
    obtain ⟨hsum, hunits⟩ := settled_add hsettled hv
    obtain ⟨hne, hpack⟩ := units_pack hsum
    exact ⟨hne, hlow, hhigh, hunits ▸ hpack⟩
  cases u with
  | notANumber => exact hu.elim
  | infinity s =>
    rw [sum₂_infinity s hv]
    cases s with
    | positive => exact ⟨nofun, .inl ⟨rfl, rfl⟩⟩
    | negative => exact ⟨nofun, .inr (.inl ⟨rfl, rfl⟩)⟩
  | zero s =>
    obtain ⟨hne, hsum⟩ := hfinite trivial
    exact ⟨hne, .inr (.inr hsum)⟩
  | finite s m e hpos =>
    obtain ⟨hne, hsum⟩ := hfinite ⟨hu.1, hu.2.2⟩
    exact ⟨hne, .inr (.inr hsum)⟩

/-- **Adding a finite value preserves the order.** -/
theorem sum₂_mono {u u' v : UnpackedFloat} (hu : Proper u) (hu' : Proper u') (hv : Settled v)
    (h : units u ≤ units u') : units (sum₂ u v) ≤ units (sum₂ u' v) := by
  obtain ⟨_, hsum⟩ := units_sum₂ hu hv
  obtain ⟨_, hsum'⟩ := units_sum₂ hu' hv
  have hmono : saturate (rounded (units u + units v)) ≤ saturate (rounded (units u' + units v)) :=
    saturate_mono (rounded_mono (by omega))
  have hcut : ∀ z, -limit ≤ saturate z ∧ saturate z ≤ limit := fun z => by
    rw [saturate]
    omega
  have hcut₁ := hcut (rounded (units u + units v))
  have hcut₂ := hcut (rounded (units u' + units v))
  omega

/-! ### Doubles -/

variable {x y c : Float}

/-- **Adding a finite double preserves the order.** -/
theorem add_le_add_const (h : x ≤ y) (hc : c.isFinite = true) : x + c ≤ y + c := by
  obtain ⟨hx, hy⟩ := isNaN_of_le h
  have hx' := proper_unpack hx
  have hy' := proper_unpack hy
  have hc' := settled_unpack hc
  have hle : value x ≤ value y := (le_iff_value_le hx hy).mp h
  refine (le_iff_value_le ?_ ?_).mpr (sum₂_mono hx' hy' hc' hle)
  · exact isNaN_of_unpack_ne (units_sum₂ hx' hc').1
  · exact isNaN_of_unpack_ne (units_sum₂ hy' hc').1

/-- A difference of doubles is the sum with the opposite. -/
theorem unpack_sub (x c : Float) :
    (x - c).toModel.unpack = sum₂ x.toModel.unpack c.toModel.unpack.neg := by
  rw [sum₂, ← sub_eq_add_opposite]
  rfl

/-- **Subtracting a finite double preserves the order.** -/
theorem sub_le_sub_const (h : x ≤ y) (hc : c.isFinite = true) : x - c ≤ y - c := by
  obtain ⟨hx, hy⟩ := isNaN_of_le h
  have hx' := proper_unpack hx
  have hy' := proper_unpack hy
  have hc' := (settled_unpack hc).neg
  have hle : value x ≤ value y := (le_iff_value_le hx hy).mp h
  refine (le_iff_value_le ?_ ?_).mpr ?_
  · exact isNaN_of_unpack_ne (unpack_sub x c ▸ (units_sum₂ hx' hc').1)
  · exact isNaN_of_unpack_ne (unpack_sub y c ▸ (units_sum₂ hy' hc').1)
  · rw [value, value, unpack_sub, unpack_sub]
    exact sum₂_mono hx' hy' hc' hle

/-! ### Factors in the unit interval -/

/-- A positive value times a factor of at most one, rounded: the exponent of the product does not
rise above that of the value, so the value itself is among those that the product can be rounded
to. -/
theorem units_mul_le {m t f j : ℕ} (h : Canonical m t) (hm : 0 < m) (hf : 0 < f)
    (hone : f ≤ 2 ^ j) :
    let u := roundWithAccuracy .binary64 .positive (m * f) ((t : ℤ) - 1074 - j) .exact
    Settled u ∧ 0 ≤ units u ∧ units u ≤ (m * 2 ^ t : ℕ) := by
  intro u
  -- the exponent that the product is brought to
  let k := (m * f).log2 + t - (j + 52)
  have hm' : m.log2 < 53 := (Nat.log2_lt hm.ne').mpr h.lt
  have hlog : (m * f).log2 ≤ m.log2 + j := by
    rw [← log2_mul_two_pow hm.ne', Nat.log2_eq_log_two, Nat.log2_eq_log_two]
    exact Nat.log_mono_right (Nat.mul_le_mul_left _ hone)
  have hfull : 0 < t → 52 ≤ (m * f).log2 := fun ht =>
    (Nat.le_log2 (Nat.mul_pos hm hf).ne').mpr ((h.full ht).trans (Nat.le_mul_of_pos_right _ hf))
  have hgrid : grid (m * f) ((t : ℤ) - 1074 - j) = (k : ℤ) - 1074 := by
    rw [grid]
    omega
  have hround := settled_roundWithAccuracy .positive (m := m * f) (e := (t : ℤ) - 1074 - j)
    (d := k + j - t) (t := k) (by omega) hgrid
  refine ⟨hround.1, ?_, ?_⟩
  · rw [hround.2]
    exact Int.natCast_nonneg _
  have hle : roundTo (m * f) (k + j - t) ≤ m * 2 ^ (t - k) := by
    have hsplit : t - k + (k + j - t) = j := by omega
    refine roundTo_le ?_
    rw [Nat.mul_assoc, ← pow_add, hsplit]
    exact Nat.mul_le_mul_left _ hone
  have hsplit : t - k + k = t := by omega
  rw [hround.2, Sign.apply, Int.ofNat_le]
  calc roundTo (m * f) (k + j - t) * 2 ^ k
      ≤ m * 2 ^ (t - k) * 2 ^ k := Nat.mul_le_mul_right _ hle
    _ = m * 2 ^ t := by rw [Nat.mul_assoc, ← pow_add, hsplit]

/-- A positive finite value has a positive sign. -/
theorem sign_of_units_nonneg {s : Sign} {m : ℕ} {e : ℤ} {hpos : 0 < m}
    (h : 0 ≤ units (.finite s m e hpos)) : s = .positive := by
  cases s with
  | positive => rfl
  | negative =>
    have hvalue := Nat.mul_pos hpos (Nat.two_pow_pos (e + 1074).toNat)
    simp only [units, Sign.apply] at h
    omega

/-- A factor of at most one, in units, is a natural number over a power of two that is not smaller. -/
theorem le_two_pow_of_mul_le {f a n : ℕ} (hf : 0 < f) (h : f * 2 ^ a ≤ 2 ^ n) :
    a ≤ n ∧ f ≤ 2 ^ (n - a) := by
  have ha : a ≤ n := by
    have hpow : 2 ^ a ≤ 2 ^ n := (Nat.le_mul_of_pos_left _ hf).trans h
    exact (Nat.pow_le_pow_iff_right (by decide)).mp hpow
  refine ⟨ha, Nat.le_of_mul_le_mul_right ?_ (Nat.two_pow_pos a)⟩
  rwa [← pow_add, Nat.sub_add_cancel ha]

/-- **The product of values that are not negative**, one of them at most one, is not more than the
other. -/
theorem settled_mul {u v : UnpackedFloat} (hu : Settled u) (hv : Settled v) (hu₀ : 0 ≤ units u)
    (hv₀ : 0 ≤ units v) (hv₁ : units v ≤ (2 ^ 1074 : ℕ)) :
    let p := UnpackedFloat.mul .binary64 u v
    Settled p ∧ 0 ≤ units p ∧ units p ≤ units u := by
  cases u with
  | notANumber => exact hu.elim
  | infinity s => exact hu.elim
  | zero s =>
    cases v with
    | notANumber => exact hv.elim
    | infinity s' => exact hv.elim
    | zero s' => exact ⟨trivial, le_rfl, le_rfl⟩
    | finite s' f e' hf => exact ⟨trivial, le_rfl, le_rfl⟩
  | finite s m e hm =>
    cases v with
    | notANumber => exact hv.elim
    | infinity s' => exact hv.elim
    | zero s' => exact ⟨trivial, le_rfl, hu₀⟩
    | finite s' f e' hf =>
      obtain rfl := sign_of_units_nonneg hu₀
      obtain rfl := sign_of_units_nonneg hv₀
      obtain ⟨hmin, hcanonical⟩ := hu
      obtain ⟨hmin', _⟩ := hv
      simp only [units, Sign.apply, Int.ofNat_le] at hv₁
      obtain ⟨hle, hone⟩ := le_two_pow_of_mul_le hf hv₁
      have he : e + e' =
          ((e + 1074).toNat : ℤ) - 1074 - ((1074 - (e' + 1074).toNat : ℕ) : ℤ) := by omega
      have hmul := units_mul_le hcanonical hm hf hone
      rw [← he] at hmul
      exact hmul

/-- A double whose value is within the limit is finite. -/
theorem isFinite_of_value (hx : x.isNaN = false) (h₀ : -limit < value x) (h₁ : value x < limit) :
    x.isFinite = true := by
  have hne := unpack_ne_of_isNaN hx
  change x.toModel.unpack.isFinite = true
  rw [value] at h₀ h₁
  cases hu : x.toModel.unpack with
  | notANumber => exact absurd hu hne
  | zero s => rfl
  | finite s m e hpos => rfl
  | infinity s =>
    rw [hu] at h₀ h₁
    cases s with
    | positive => exact absurd h₁ (lt_irrefl _)
    | negative => exact absurd h₀ (lt_irrefl _)

theorem value_one : value 1.0 = (2 ^ 1074 : ℕ) := by
  have hone : (1.0 : Float).toModel.unpack = .finite .positive (2 ^ 52) (-52) (by decide) := rfl
  have hsplit : 1074 = 52 + (-52 + 1074 : ℤ).toNat := rfl
  rw [value, hone, units, Sign.apply, ← pow_add, ← hsplit]

/-- **A double that is not negative, times one between zero and one**, is finite, not negative and
not more than it was. -/
theorem mul_le_of_le_one (hx : x.isFinite = true) (hx₀ : 0.0 ≤ x) (hc₀ : 0.0 ≤ c) (hc₁ : c ≤ 1.0) :
    (x * c).isFinite = true ∧ x * c ≤ x := by
  have hx' := isNaN_of_isFinite hx
  have hc' := (isNaN_of_le hc₀).2
  have hvx : 0 ≤ value x := (le_iff_value_le (by decide) hx').mp hx₀
  have hvc : 0 ≤ value c := (le_iff_value_le (by decide) hc').mp hc₀
  have hvc₁ : value c ≤ (2 ^ 1074 : ℕ) := value_one ▸ (le_iff_value_le hc' (by decide)).mp hc₁
  obtain ⟨_, hx_lt⟩ : -limit < value x ∧ value x < limit :=
    (proper_unpack hx').within (settled_unpack hx)
  have hc : c.isFinite = true := by
    have hone : ((2 ^ 1074 : ℕ) : ℤ) < limit := by
      rw [limit, Int.ofNat_lt]
      exact pow_lt_pow_right₀ one_lt_two (by decide)
    exact isFinite_of_value hc' (by omega) (by omega)
  obtain ⟨hsettled, hnonneg, hle⟩ :=
    settled_mul (settled_unpack hx) (settled_unpack hc) hvx hvc hvc₁
  obtain ⟨hne, hunits⟩ := units_pack hsettled
  have hproduct : (x * c).isNaN = false := isNaN_of_unpack_ne hne
  have hvalue : 0 ≤ value (x * c) ∧ value (x * c) ≤ value x := by
    have hsaturate : value (x * c) = saturate _ := hunits
    rw [hsaturate, saturate]
    rw [value] at hx_lt ⊢
    omega
  exact ⟨isFinite_of_value hproduct (by omega) (by omega),
    (le_iff_value_le hproduct hx').mpr hvalue.2⟩

end ShadowGate.Number
