import Mathlib.Algebra.Order.Field.Basic
import Mathlib.Algebra.Order.Field.Rat
import Mathlib.Data.List.Basic
import Mathlib.Tactic.Linarith
import TurtleGraphics.Decimal
import TurtleGraphics.Proofs.WholeNumbers

/-! # Rounded decimals

What is written of a number is one of three things: the nearest decimal with the places asked for, an infinity or no
number at all (`Rounded`). Which one it is depends on the exact value of the number alone (`RoundsTo`), and it can be
read off the text again (`Written`). -/

namespace TurtleGraphics.Decimal
open Float.Model Float.Model.UnpackedFloat

/-! ### The nearest integer -/

/-- `n` is the integer nearest to `q`, and the even one if two are equally near. -/
def Nearest (q : ℚ) (n : ℕ) : Prop := |q - n| ≤ 1 / 2 ∧ (|q - n| = 1 / 2 → Even n)

theorem Nearest.le {q : ℚ} {n k : ℕ} (h : Nearest q n) (hk : Nearest q k) : n ≤ k := by
  by_contra hlt
  have hlt : (k : ℚ) + 1 ≤ n := by exact_mod_cast Nat.lt_of_not_le hlt
  have hlow := (abs_le.mp h.1).1
  have hhigh := (abs_le.mp hk.1).2
  -- Both are half a unit away, so they follow each other and only one is even.
  have hn : |q - n| = 1 / 2 := by rw [abs_of_nonpos] <;> linarith
  have hk' : |q - k| = 1 / 2 := by rw [abs_of_nonneg] <;> linarith
  have hnext : n = k + 1 := by
    have hcast : (n : ℚ) = k + 1 := by linarith
    exact_mod_cast hcast
  have heven := h.2 hn
  rw [hnext, Nat.even_add_one] at heven
  exact heven (hk.2 hk')

theorem Nearest.unique {q : ℚ} {n k : ℕ} (h : Nearest q n) (hk : Nearest q k) : n = k :=
  Nat.le_antisymm (h.le hk) (hk.le h)

theorem nearest_natCast (n : ℕ) : Nearest n n := by
  rw [Nearest, sub_self, abs_zero]
  exact ⟨by norm_num, fun h => by norm_num at h⟩

theorem nearest_of_lt {q : ℚ} {n : ℕ} (h : |q - n| < 1 / 2) : Nearest q n := ⟨h.le, fun htie => absurd htie h.ne⟩

theorem nearest_below {n : ℕ} {rest : ℚ} (hlow : 0 ≤ rest) (h : rest < 1 / 2) : Nearest (n + rest) n := by
  apply nearest_of_lt
  rwa [add_sub_cancel_left, abs_of_nonneg hlow]

theorem nearest_above {n : ℕ} {rest : ℚ} (h : 1 / 2 < rest) (hhigh : rest < 1) : Nearest (n + rest) (n + 1 : ℕ) := by
  apply nearest_of_lt
  rw [Nat.cast_add, Nat.cast_one, add_sub_add_left_eq_sub, abs_of_neg (by linarith)]
  linarith

theorem nearest_half (n : ℕ) : Nearest (n + 1 / 2) (n + n % 2) := by
  rcases Nat.mod_two_eq_zero_or_one n with heven | hodd
  · rw [heven, Nat.add_zero, Nearest, add_sub_cancel_left, abs_of_nonneg (by norm_num)]
    exact ⟨le_rfl, fun _ => Nat.even_iff.mpr heven⟩
  · rw [hodd, Nearest, Nat.cast_add, Nat.cast_one, add_sub_add_left_eq_sub]
    exact ⟨by norm_num, fun _ => (Nat.odd_iff.mpr hodd).add_one⟩

theorem nearest_roundDiv (num : ℕ) {den : ℕ} (hden : 0 < den) : Nearest (num / den) (roundDiv num den) := by
  have hpos : (0 : ℚ) < den := Nat.cast_pos.mpr hden
  have hvalue : (num : ℚ) / den = (num / den : ℕ) + (num % den : ℕ) / den := by
    rw [div_eq_iff hpos.ne', add_mul, div_mul_cancel₀ _ hpos.ne', mul_comm]
    exact_mod_cast (Nat.div_add_mod num den).symm
  -- What is left over is compared with a half.
  unfold roundDiv
  dsimp only
  rw [hvalue]
  by_cases hbelow : 2 * (num % den) < den
  · rw [if_pos hbelow]
    refine nearest_below (div_nonneg (Nat.cast_nonneg _) hpos.le) ?_
    rw [div_lt_div_iff₀ hpos two_pos]
    exact_mod_cast (by omega : num % den * 2 < 1 * den)
  rw [if_neg hbelow]
  by_cases habove : den < 2 * (num % den)
  · rw [if_pos habove]
    refine nearest_above ?_ ((div_lt_one hpos).mpr (by exact_mod_cast Nat.mod_lt num hden))
    rw [div_lt_div_iff₀ two_pos hpos]
    exact_mod_cast (by omega : 1 * den < num % den * 2)
  · have hhalf : ((num % den : ℕ) : ℚ) / den = 1 / 2 := by
      rw [div_eq_div_iff hpos.ne' two_ne_zero]
      exact_mod_cast (by omega : num % den * 2 = 1 * den)
    rw [if_neg habove, hhalf]
    exact nearest_half _

theorem nearest_roundScaled (n : ℕ) (e : ℤ) : Nearest (n * 2 ^ e) (roundScaled n e) := by
  unfold roundScaled
  by_cases he : e < 0
  · have hvalue : (n : ℚ) * 2 ^ e = n / (Nat.pow 2 e.natAbs : ℕ) := by
      obtain ⟨k, rfl⟩ : ∃ k : ℕ, e = -k := ⟨e.natAbs, by omega⟩
      rw [Int.natAbs_neg, Int.natAbs_natCast, zpow_neg, zpow_natCast, Nat.pow_eq, Nat.cast_pow, Nat.cast_ofNat,
        div_eq_mul_inv]
    rw [if_pos he, hvalue]
    exact nearest_roundDiv n (Nat.pow_pos (by decide))
  · have hvalue : (n : ℚ) * 2 ^ e = (n * Nat.pow 2 e.natAbs : ℕ) := by
      obtain ⟨k, rfl⟩ : ∃ k : ℕ, e = k := ⟨e.natAbs, by omega⟩
      rw [Int.natAbs_natCast, zpow_natCast, Nat.pow_eq, Nat.cast_mul, Nat.cast_pow, Nat.cast_ofNat]
    rw [if_neg he, hvalue]
    exact nearest_natCast _

/-! ### The exact value of a number -/

/-- Whether the sign bit is set. -/
def signBit (x : Float) : Bool := x.toBits.toBitVec.msb

def rational? : UnpackedFloat → Option ℚ
  | .zero _ => some 0
  | .finite s m e _ => some (s.apply m * 2 ^ e)
  | .infinity _ | .notANumber => none

/-- The exact value of a finite number. -/
def value? (x : Float) : Option ℚ := rational? x.toModel.unpack

/-- A magnitude with a sign. -/
def signed (negative : Bool) (q : ℚ) : ℚ := if negative then -q else q

theorem signed_zero (negative : Bool) : signed negative 0 = 0 := by
  cases negative
  · rfl
  · exact neg_zero

theorem rational?_finite (s : Sign) (m : ℕ) (e : ℤ) (hm : 0 < m) :
    rational? (.finite s m e hm) = some ((s.apply m : ℚ) * 2 ^ e) := rfl

theorem apply_mul_eq_signed (negative : Bool) (m : ℕ) (q : ℚ) :
    ((if negative then Sign.negative else .positive).apply m : ℚ) * q = signed negative (m * q) := by
  cases negative <;> simp [signed, Sign.apply]

section
variable (b : BitVec 64)

theorem toNat_unpackExponent : (@unpackExponent .binary64 b).toNat = b.toNat / 2 ^ 52 % 2 ^ 11 := by
  unfold unpackExponent
  rw [BitVec.toNat_cast, BitVec.extractLsb_toNat, Nat.shiftRight_eq_div_pow]
  rfl

theorem toNat_unpackMantissa : (@unpackMantissa .binary64 b).toNat = b.toNat % 2 ^ 52 := by
  unfold unpackMantissa
  rw [BitVec.toNat_cast, BitVec.extractLsb_toNat]
  rfl

theorem ofBitVec_unpackSign : Sign.ofBitVec (@unpackSign .binary64 b) = if b.msb then .negative else .positive := by
  have hbit : (@unpackSign .binary64 b).toNat = b.toNat / 2 ^ 63 % 2 := by
    unfold unpackSign
    rw [BitVec.toNat_cast, BitVec.extractLsb_toNat, Nat.shiftRight_eq_div_pow]
    rfl
  have hlt := b.isLt
  have hzero : @unpackSign .binary64 b = 0#1 ↔ ¬ 2 ^ 63 ≤ b.toNat := by
    rw [← BitVec.toNat_inj, hbit, BitVec.toNat_ofNat]
    omega
  unfold Sign.ofBitVec
  by_cases hsign : 2 ^ 63 ≤ b.toNat
  · rw [if_neg (hzero.not.mpr (not_not_intro hsign)), if_pos (BitVec.msb_eq_decide b ▸ decide_eq_true hsign)]
  · rw [if_pos (hzero.mpr hsign), if_neg (by rw [BitVec.msb_eq_decide]; simpa using hsign)]

theorem unpackExponent_eq_zero_iff : @unpackExponent .binary64 b = 0#11 ↔ b.toNat / 2 ^ 52 % 2 ^ 11 = 0 := by
  rw [← BitVec.toNat_inj, toNat_unpackExponent]
  rfl

theorem unpackExponent_eq_ones_iff : @unpackExponent .binary64 b = -1#11 ↔ b.toNat / 2 ^ 52 % 2 ^ 11 = 2047 := by
  rw [← BitVec.toNat_inj, toNat_unpackExponent]
  rfl

theorem unpackMantissa_eq_zero_iff : @unpackMantissa .binary64 b = 0#52 ↔ b.toNat % 2 ^ 52 = 0 := by
  rw [← BitVec.toNat_inj, toNat_unpackMantissa]
  rfl

theorem unpack_of_ones (h : b.toNat / 2 ^ 52 % 2 ^ 11 = 2047) :
    UnpackedFloat.unpack .binary64 b = if b.toNat % 2 ^ 52 = 0 then .infinity (if b.msb then .negative else .positive)
      else .notANumber := by
  unfold UnpackedFloat.unpack
  dsimp only
  rw [if_pos ((unpackExponent_eq_ones_iff b).mpr h), ofBitVec_unpackSign]
  by_cases hfraction : b.toNat % 2 ^ 52 = 0
  · rw [if_pos hfraction, if_pos ((unpackMantissa_eq_zero_iff b).mpr hfraction)]
  · rw [if_neg hfraction, if_neg (mt (unpackMantissa_eq_zero_iff b).mp hfraction)]

theorem rational?_subnormal (h : b.toNat / 2 ^ 52 % 2 ^ 11 = 0) :
    rational? (UnpackedFloat.unpack .binary64 b) =
      some (signed b.msb ((b.toNat % 2 ^ 52 : ℕ) * 2 ^ (-1074 : ℤ))) := by
  unfold UnpackedFloat.unpack
  dsimp only
  rw [if_neg (mt (unpackExponent_eq_ones_iff b).mp (by omega)), if_pos ((unpackExponent_eq_zero_iff b).mpr h)]
  by_cases hmantissa : @unpackMantissa .binary64 b = 0#52
  · rw [dif_pos hmantissa, (unpackMantissa_eq_zero_iff b).mp hmantissa, Nat.cast_zero, zero_mul, signed_zero]
    rfl
  · rw [dif_neg hmantissa]
    refine (rational?_finite _ _ _ _).trans ?_
    rw [ofBitVec_unpackSign, apply_mul_eq_signed, toNat_unpackMantissa, toNat_unpackExponent, h]
    rfl

theorem rational?_normal (hzero : b.toNat / 2 ^ 52 % 2 ^ 11 ≠ 0) (hones : b.toNat / 2 ^ 52 % 2 ^ 11 ≠ 2047) :
    rational? (UnpackedFloat.unpack .binary64 b) = some (signed b.msb
      ((2 ^ 52 + b.toNat % 2 ^ 52 : ℕ) * 2 ^ ((b.toNat / 2 ^ 52 % 2 ^ 11 : ℕ) - 1075 : ℤ))) := by
  unfold UnpackedFloat.unpack
  dsimp only
  rw [if_neg (mt (unpackExponent_eq_ones_iff b).mp hones), if_neg (mt (unpackExponent_eq_zero_iff b).mp hzero)]
  refine (rational?_finite _ _ _ _).trans ?_
  rw [ofBitVec_unpackSign, apply_mul_eq_signed, Whole.toNat_one_append, toNat_unpackMantissa, toNat_unpackExponent]
  rfl

end

theorem not_isNaN_of_rational? {u : UnpackedFloat} {v : ℚ} (h : rational? u = some v) :
    u.isNaN = false ∧ u.isInf = false := by
  cases u with
  | notANumber | infinity s => cases h
  | zero s | finite s m e hm => exact ⟨rfl, rfl⟩

/-- The bits of a number are read as the number itself. -/
theorem ofBits_toBits (x : Float) :
    (x.isNaN = true ∧ x.isInf = false ∧ value? x = none) ∧ Binary64.ofBits x.toBits = .nan ∨
    (x.isNaN = false ∧ x.isInf = true ∧ value? x = none) ∧ Binary64.ofBits x.toBits = .infinite (signBit x) ∨
    ∃ (m : ℕ) (e : ℤ), (x.isNaN = false ∧ x.isInf = false ∧ value? x = some (signed (signBit x) (m * 2 ^ e))) ∧
      Binary64.ofBits x.toBits = .finite (signBit x) m e := by
  have hsign : decide (Nat.pow 2 63 ≤ x.toBits.toNat) = signBit x := (BitVec.msb_eq_decide x.toBits.toBitVec).symm
  have hfinite : ∀ {v}, value? x = some v → x.isNaN = false ∧ x.isInf = false ∧ value? x = some v := fun h =>
    have hnot := not_isNaN_of_rational? h
    ⟨hnot.1, hnot.2, h⟩
  unfold Binary64.ofBits
  dsimp only
  rw [hsign]
  -- An exponent of ones alone marks what is not finite, one of zeros alone a mantissa without a leading one.
  by_cases hones : x.toBits.toNat / Nat.pow 2 52 % Nat.pow 2 11 = 2047
  · have hunpack : x.toModel.unpack = _ := unpack_of_ones x.toBits.toBitVec hones
    rw [if_pos hones]
    unfold Float.isNaN Float.isInf Float.Model.isNaN Float.Model.isInf value?
    by_cases hfraction : x.toBits.toNat % Nat.pow 2 52 = 0
    · rw [if_pos hfraction, hunpack.trans (if_pos hfraction)]
      exact Or.inr (Or.inl ⟨⟨rfl, rfl, rfl⟩, rfl⟩)
    · rw [if_neg hfraction, hunpack.trans (if_neg hfraction)]
      exact Or.inl ⟨⟨rfl, rfl, rfl⟩, rfl⟩
  rw [if_neg hones]
  by_cases hzero : x.toBits.toNat / Nat.pow 2 52 % Nat.pow 2 11 = 0
  · rw [if_pos hzero]
    exact Or.inr (Or.inr ⟨_, _, hfinite (rational?_subnormal x.toBits.toBitVec hzero), rfl⟩)
  · rw [if_neg hzero]
    exact Or.inr (Or.inr ⟨_, _, hfinite (rational?_normal x.toBits.toBitVec hzero hones), rfl⟩)

/-! ### Rounding -/

/-- What is written of a number. -/
inductive Rounded where
  /-- `n` units of the last decimal place -/
  | decimal (negative : Bool) (n : ℕ)
  | infinite (negative : Bool)
  | nan
deriving DecidableEq

/-- What a number is with `places` decimals. -/
def RoundsTo (places : ℕ) (x : Float) : Rounded → Prop
  | .decimal negative n => negative = signBit x ∧ ∃ v, value? x = some v ∧ Nearest (|v| * 10 ^ places) n
  | .infinite negative => negative = signBit x ∧ x.isInf = true
  | .nan => x.isNaN = true

def Binary64.rounded (places : ℕ) : Binary64 → Rounded
  | finite negative mantissa exponent => .decimal negative (roundScaled (mantissa * Nat.pow 10 places) exponent)
  | infinite negative => .infinite negative
  | nan => .nan

theorem abs_signed (negative : Bool) {q : ℚ} (h : 0 ≤ q) : |signed negative q| = q := by
  cases negative
  · exact abs_of_nonneg h
  · exact (abs_neg q).trans (abs_of_nonneg h)

theorem scaled_magnitude (places m : ℕ) (e : ℤ) :
    ((m * Nat.pow 10 places : ℕ) : ℚ) * 2 ^ e = m * 2 ^ e * 10 ^ places := by
  rw [Nat.cast_mul, Nat.pow_eq, Nat.cast_pow, Nat.cast_ofNat, mul_right_comm]

theorem roundsTo_iff {places : ℕ} {x : Float} {r : Rounded} :
    RoundsTo places x r ↔ r = (Binary64.ofBits x.toBits).rounded places := by
  rcases ofBits_toBits x with ⟨hclass, hbits⟩ | ⟨hclass, hbits⟩ | ⟨m, e, hclass, hbits⟩
  · rw [hbits]
    cases r <;> simp only [RoundsTo, Binary64.rounded, hclass, reduceCtorEq, false_and, and_false, exists_false]
  · rw [hbits]
    cases r <;> simp only [RoundsTo, Binary64.rounded, hclass, reduceCtorEq, false_and, and_false, exists_false,
      and_true, Rounded.infinite.injEq]
  · rw [hbits]
    cases r with
    | decimal negative n =>
      have hmagnitude : |signed (signBit x) (m * 2 ^ e)| = m * 2 ^ e :=
        abs_signed _ (mul_nonneg (Nat.cast_nonneg m) (zpow_nonneg zero_le_two e))
      have hnearest := nearest_roundScaled (m * Nat.pow 10 places) e
      rw [scaled_magnitude, ← hmagnitude] at hnearest
      simp only [RoundsTo, Binary64.rounded, hclass, Option.some.injEq, exists_eq_left', Rounded.decimal.injEq]
      exact and_congr_right fun _ => ⟨fun h => h.unique hnearest, fun h => h ▸ hnearest⟩
    | infinite negative => simp only [RoundsTo, Binary64.rounded, hclass, reduceCtorEq, and_false]
    | nan => simp only [RoundsTo, Binary64.rounded, hclass, reduceCtorEq]

/-- Every number is rounded in one way. -/
theorem existsUnique_roundsTo (places : ℕ) (x : Float) : ∃! r, RoundsTo places x r :=
  ⟨_, roundsTo_iff.mpr rfl, fun _ => roundsTo_iff.mp⟩

/-- The value that is written, if it is a decimal. -/
def Rounded.value? (places : ℕ) : Rounded → Option ℚ
  | decimal negative n => some (signed negative (n / 10 ^ places))
  | infinite _ | nan => none

theorem abs_signed_sub_signed (negative : Bool) (p q : ℚ) : |signed negative p - signed negative q| = |p - q| := by
  cases negative
  · rfl
  · rw [signed, signed, if_pos rfl, if_pos rfl, neg_sub_neg, abs_sub_comm]

/-- What is written of a finite number is within half a unit of the last decimal place. -/
theorem RoundsTo.near {places : ℕ} {x : Float} {r : Rounded} {v : ℚ} (h : RoundsTo places x r)
    (hv : value? x = some v) : ∃ w, r.value? places = some w ∧ |w - v| ≤ 1 / 2 / 10 ^ places := by
  rcases ofBits_toBits x with ⟨hclass, -⟩ | ⟨hclass, -⟩ | ⟨m, e, hclass, hbits⟩
  · cases hv.symm.trans hclass.2.2
  · cases hv.symm.trans hclass.2.2
  · rw [roundsTo_iff, hbits] at h
    obtain rfl : signed (signBit x) (m * 2 ^ e) = v := Option.some.inj (hclass.2.2.symm.trans hv)
    have hpower : (0 : ℚ) < 10 ^ places := pow_pos (by norm_num) places
    have hnear := (nearest_roundScaled (m * Nat.pow 10 places) e).1
    refine ⟨_, by rw [h]; rfl, ?_⟩
    rw [abs_signed_sub_signed, le_div_iff₀ hpower, ← abs_of_pos hpower, ← abs_mul, abs_of_pos hpower, sub_mul,
      div_mul_cancel₀ _ hpower.ne', abs_sub_comm, ← scaled_magnitude]
    exact hnear

/-! ### Text -/

/-- How a rounded number is written: a decimal with a sign if it has one, at least one digit before the point but no
    zero in front of others, and `places` digits behind it. -/
inductive Written (places : ℕ) : List Char → Rounded → Prop
  | decimal (negative : Bool) (whole fraction : List Char) (hdigits : ∀ c ∈ whole ++ fraction, c.isDigit = true)
      (hwhole : whole ≠ []) (hlead : whole.head? = some '0' → whole = ['0']) (hplaces : fraction.length = places) :
      Written places ((if negative then ['-'] else []) ++ whole ++ '.' :: fraction)
        (.decimal negative (Nat.ofDigitChars 10 (whole ++ fraction) 0))
  | infinite (negative : Bool) : Written places (if negative then "-inf" else "inf").toList (.infinite negative)
  | nan : Written places "NaN".toList .nan

/-- What a text of a rounded number is the text of. -/
def Rounded.ofText (text : List Char) : Rounded :=
  if '.' ∈ text then .decimal (text.head? = some '-') (Nat.ofDigitChars 10 (text.filter Char.isDigit) 0)
  else if 'N' ∈ text then .nan
  else .infinite (text.head? = some '-')

theorem Written.eq_ofText {places : ℕ} {text : List Char} {r : Rounded} (h : Written places text r) :
    r = .ofText text := by
  cases h with
  | decimal negative whole fraction hdigits hwhole hlead hplaces =>
    rw [List.forall_mem_append] at hdigits
    -- Without the sign and the point there are only digits left.
    have hsign : ((if negative then ['-'] else []) ++ whole ++ '.' :: fraction).head? = some '-' ↔ negative = true := by
      obtain ⟨d, rest, rfl⟩ := List.exists_cons_of_ne_nil hwhole
      have hd : d ≠ '-' := fun hd => absurd (hdigits.1 d (List.mem_cons_self ..)) (by rw [hd]; decide)
      cases negative <;> simp [hd]
    have hfilter : ((if negative then ['-'] else []) ++ whole ++ '.' :: fraction).filter Char.isDigit =
        whole ++ fraction := by
      rw [List.filter_append, List.filter_append, List.filter_cons_of_neg (by decide),
        List.filter_eq_self.mpr hdigits.1, List.filter_eq_self.mpr hdigits.2]
      cases negative <;> rfl
    rw [Rounded.ofText, if_pos (by simp), hfilter]
    congr 1
    rw [Bool.eq_iff_iff, decide_eq_true_iff, hsign]
  | infinite negative => cases negative <;> decide +kernel
  | nan => decide +kernel

theorem Written.notMem {places : ℕ} {text : List Char} {r : Rounded} (h : Written places text r) {c : Char}
    (hdigit : c.isDigit = false) (hc : c ∉ "-.infNa".toList) : c ∉ text := by
  have hother : ∀ word : List Char, word ⊆ "-.infNa".toList → c ∉ word := fun _ hword hmem => hc (hword hmem)
  cases h with
  | decimal negative whole fraction hdigits hwhole hlead hplaces =>
    rw [List.mem_append, List.mem_append, List.mem_cons]
    rintro ((h | h) | h | h)
    · exact hother _ (by cases negative <;> decide +kernel) h
    · exact absurd (hdigits c (List.mem_append_left _ h)) (by rw [hdigit]; decide)
    · exact hother ['.'] (by decide +kernel) (h ▸ List.mem_singleton_self _)
    · exact absurd (hdigits c (List.mem_append_right _ h)) (by rw [hdigit]; decide)
  | infinite negative => exact hother _ (by cases negative <;> decide +kernel)
  | nan => exact hother _ (by decide +kernel)

theorem toDigits_lead {n : ℕ} (h : (Nat.toDigits 10 n).head? = some '0') : Nat.toDigits 10 n = ['0'] := by
  induction n using Nat.strongRecOn with
  | _ n ih =>
    rcases Nat.lt_or_ge n 10 with hlt | hge
    · rw [Nat.toDigits_of_lt_base hlt] at h ⊢
      rw [Option.some.inj h]
    · rw [Nat.toDigits_of_base_le (by decide) hge, List.head?_append_of_ne_nil _ Nat.toDigits_ne_nil] at h
      have hzero : n / 10 = 0 := calc
        n / 10 = Nat.ofDigitChars 10 (Nat.toDigits 10 (n / 10)) 0 :=
          (Nat.ofDigitChars_toDigits (by decide) (by decide)).symm
        _ = Nat.ofDigitChars 10 ['0'] 0 := by rw [ih (n / 10) (by omega) h]
        _ = 0 := rfl
      omega

section
variable {places : ℕ} (hplaces : 0 < places) (n : ℕ)
include hplaces

theorem length_fraction : ((Nat.toDigits 10 (n % Nat.pow 10 places)).leftpad places '0').length = places := by
  rw [List.length_leftpad, Nat.max_eq_left]
  exact (Nat.length_toDigits_le_iff (by decide) hplaces).mpr (Nat.mod_lt n (Nat.pow_pos (by decide)))

theorem ofDigitChars_pointed : Nat.ofDigitChars 10 (Nat.toDigits 10 (n / Nat.pow 10 places) ++
    (Nat.toDigits 10 (n % Nat.pow 10 places)).leftpad places '0') 0 = n := by
  have hfraction : Nat.ofDigitChars 10 ((Nat.toDigits 10 (n % Nat.pow 10 places)).leftpad places '0') 0 =
      n % Nat.pow 10 places := by
    rw [List.leftpad, Nat.ofDigitChars_append, Nat.ofDigitChars_replicate_zero, Nat.mul_zero,
      Nat.ofDigitChars_toDigits (by decide) (by decide)]
  rw [Nat.ofDigitChars_append, Nat.ofDigitChars_toDigits (by decide) (by decide), Nat.ofDigitChars_eq_ofDigitChars_zero,
    length_fraction hplaces, hfraction]
  exact Nat.div_add_mod n (10 ^ places)

theorem written_pointed (negative : Bool) :
    Written places ((if negative then ['-'] else []) ++ pointed places n) (.decimal negative n) := by
  have hdigits : ∀ c ∈ Nat.toDigits 10 (n / Nat.pow 10 places) ++
      (Nat.toDigits 10 (n % Nat.pow 10 places)).leftpad places '0', c.isDigit = true := by
    intro c hc
    rw [List.leftpad, List.mem_append, List.mem_append] at hc
    rcases hc with hc | hc | hc
    · exact Nat.isDigit_of_mem_toDigits (by decide) (by decide) hc
    · rw [List.eq_of_mem_replicate hc]
      decide
    · exact Nat.isDigit_of_mem_toDigits (by decide) (by decide) hc
  have h := Written.decimal negative _ _ hdigits Nat.toDigits_ne_nil toDigits_lead (length_fraction hplaces n)
  rwa [ofDigitChars_pointed hplaces, List.append_assoc] at h

end

/-- The text of a rounded number. -/
def Rounded.text (places : ℕ) : Rounded → List Char
  | decimal negative n => (if negative then ['-'] else []) ++ pointed places n
  | infinite negative => (if negative then "-inf" else "inf").toList
  | nan => "NaN".toList

theorem written_text {places : ℕ} (hplaces : 0 < places) (r : Rounded) : Written places (r.text places) r := by
  cases r with
  | decimal negative n => exact written_pointed hplaces n negative
  | infinite negative => exact .infinite negative
  | nan => exact .nan

theorem Rounded.text_inj {places : ℕ} (hplaces : 0 < places) {r r' : Rounded} :
    r.text places = r'.text places ↔ r = r' := by
  refine ⟨fun h => ?_, fun h => h ▸ rfl⟩
  rw [(written_text hplaces r).eq_ofText, h, ← (written_text hplaces r').eq_ofText]

theorem toList_fixed {places : ℕ} {x : Float} {r : Rounded} (h : RoundsTo places x r) :
    (fixed places x).toList = r.text places := by
  rw [roundsTo_iff.mp h, fixed]
  cases Binary64.ofBits x.toBits with
  | finite negative mantissa exponent => cases negative <;> exact String.toList_ofList
  | infinite negative => rfl
  | nan => rfl

-- Two halves, one that is rounded down and one that is rounded up; a carry into the whole part; a negative zero.
example : (Binary64.ofBits 0x3FA0000000000000).fixed 4 = "0.0312" ∧
    (Binary64.ofBits 0x3FB8000000000000).fixed 4 = "0.0938" ∧
    (Binary64.ofBits 0x4023FFFFFFFFFFFF).fixed 4 = "10.0000" ∧
    (Binary64.ofBits 0x8000000000000000).fixed 4 = "-0.0000" := by
  decide +kernel

end TurtleGraphics.Decimal
