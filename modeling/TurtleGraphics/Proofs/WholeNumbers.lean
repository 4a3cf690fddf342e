import Mathlib.Tactic.Ring

/-! # Whole numbers in floating point

A binary64 number has 53 binary digits, so an integer of smaller magnitude than `2 ^ 53` is one of them, and nothing is
lost when two such integers are added or subtracted and the result is again of that magnitude. Here this is shown of
`Float` itself, from its digits: an integer is kept with as many zeros behind it as make 53 digits (`Kept`), and
rounding only ever cuts off zeros (`kept_round`). -/

namespace TurtleGraphics.Whole
open Float.Model Float.Model.UnpackedFloat

/-- The integers of a magnitude at which every integer is a floating-point number. -/
def Safe (i : Int) : Prop := i.natAbs < 2 ^ 53

instance : DecidablePred Safe := fun i => inferInstanceAs (Decidable (i.natAbs < 2 ^ 53))

def whole? : UnpackedFloat → Option Int
  | .zero _ => some 0
  | .finite s m e _ =>
    if m * 2 ^ e.toNat % 2 ^ (-e).toNat = 0 then some (s.apply (m * 2 ^ e.toNat / 2 ^ (-e).toNat : Nat)) else none
  | .infinity _ | .notANumber => none

/-- The integer that a number is, if it is one. A zero is 0 whatever its sign. -/
def integer? (x : Float) : Option Int := whole? x.toModel.unpack

/-- How an integer is kept: 53 digits, with the point `k` digits from the end, or a zero. -/
inductive Kept : UnpackedFloat → Int → Prop
  | zero (s : Sign) : Kept (.zero s) 0
  | digits (s : Sign) (n k : Nat) (hpos : 0 < n * 2 ^ k) (hlow : 2 ^ 52 ≤ n * 2 ^ k) (hhigh : n * 2 ^ k < 2 ^ 53) :
      Kept (.finite s (n * 2 ^ k) (-k) hpos) (s.apply n)

theorem Kept.of_eq {s : Sign} {m n k : Nat} {e : Int} (hpos : 0 < m) (hm : m = n * 2 ^ k) (he : e = -k)
    (hlow : 2 ^ 52 ≤ m) (hhigh : m < 2 ^ 53) : Kept (.finite s m e hpos) (s.apply n) := by
  subst hm he
  exact .digits s n k hpos hlow hhigh

theorem Kept.whole?_eq {u : UnpackedFloat} {i : Int} (h : Kept u i) : whole? u = some i := by
  cases h with
  | zero s => rfl
  | digits s n k hpos hlow hhigh =>
    have hup : (-(k : Int)).toNat = 0 := by omega
    have hdown : (- -(k : Int)).toNat = k := by omega
    unfold whole?
    dsimp only
    rw [hup, hdown, Nat.pow_zero, Nat.mul_one, if_pos (Nat.mul_mod_left _ _), Nat.mul_div_cancel _ (Nat.two_pow_pos k)]

/-! ### Digits -/

theorem log2_mul_two_pow {m : Nat} (hm : 0 < m) (k : Nat) : (m * 2 ^ k).log2 = m.log2 + k := by
  induction k with
  | zero => rw [Nat.pow_zero, Nat.mul_one, Nat.add_zero]
  | succ k ih =>
    have hpos : m * 2 ^ k ≠ 0 := Nat.ne_of_gt (Nat.mul_pos hm (Nat.two_pow_pos k))
    rw [Nat.pow_succ, ← Nat.mul_assoc, Nat.mul_comm _ 2, Nat.log2_two_mul hpos, ih, Nat.add_assoc]

theorem log2_eq_of_bounds {m : Nat} (hlow : 2 ^ 52 ≤ m) (hhigh : m < 2 ^ 53) : m.log2 = 52 :=
  (Nat.log2_eq_iff (by omega)).mpr ⟨hlow, hhigh⟩

theorem exists_digits {n : Nat} (hpos : 0 < n) (hsafe : n < 2 ^ 53) : ∃ k, 2 ^ 52 ≤ n * 2 ^ k ∧ n * 2 ^ k < 2 ^ 53 := by
  have hlog : n.log2 < 53 := (Nat.log2_lt (by omega)).mpr hsafe
  have hdigits : (n * 2 ^ (52 - n.log2)).log2 = 52 := by
    rw [log2_mul_two_pow hpos]
    omega
  exact ⟨52 - n.log2, (Nat.log2_eq_iff (Nat.ne_of_gt (Nat.mul_pos hpos (Nat.two_pow_pos _)))).mp hdigits⟩

theorem lt_of_digits {n k : Nat} (hpos : 0 < n * 2 ^ k) (hhigh : n * 2 ^ k < 2 ^ 53) : k < 53 :=
  (Nat.pow_lt_pow_iff_right (by decide : 1 < 2)).mp
    (Nat.lt_of_le_of_lt (Nat.le_mul_of_pos_left _ (Nat.pos_of_mul_pos_right hpos)) hhigh)

/-- `m * 2 ^ e` is the number `n`. -/
def Scaled (m : Nat) (e : Int) (n : Nat) : Prop := m * 2 ^ e.toNat = n * 2 ^ (-e).toNat

section
variable {m n : Nat} {e : Int}

theorem Scaled.pos (h : Scaled m e n) (hpos : 0 < n) : 0 < m := by
  refine Nat.pos_of_ne_zero fun hzero => ?_
  rw [Scaled, hzero, Nat.zero_mul] at h
  exact Nat.ne_of_lt (Nat.mul_pos hpos (Nat.two_pow_pos _)) h

theorem Scaled.log2_eq (h : Scaled m e n) (hpos : 0 < n) : (m.log2 : Int) + e = n.log2 := by
  have hlogs : (m * 2 ^ e.toNat).log2 = (n * 2 ^ (-e).toNat).log2 := congrArg Nat.log2 h
  rw [log2_mul_two_pow (h.pos hpos), log2_mul_two_pow hpos] at hlogs
  omega

end

/-! ### Rounding -/

theorem targetExponent_eq (t : Int) : Format.binary64.targetExponent t = max (t - 53) (-1074) := rfl

theorem shiftRight_exact (m k : Nat) :
    (⟨m * 2 ^ k, false, false⟩ : ExtendedMantissa) >>> k = ⟨m, false, false⟩ := by
  induction k generalizing m with
  | zero => simp [HShiftRight.hShiftRight, Nat.repeat]
  | succ k ih =>
    show ExtendedMantissa.shiftRightOne ((⟨m * 2 ^ (k + 1), false, false⟩ : ExtendedMantissa) >>> k) = _
    rw [Nat.pow_succ', ← Nat.mul_assoc, ih]
    simp [ExtendedMantissa.shiftRightOne]

section
variable {m : Nat} (hlow : 2 ^ 52 ≤ m) (hhigh : m < 2 ^ 53) {t : Int} (ht : -1074 ≤ t)
include hlow hhigh ht

theorem shiftToTargetExponent_exact (k : Nat) :
    shiftToTargetExponent .binary64 (m * 2 ^ k) (t - k) .exact = (⟨m, false, false⟩, t) := by
  have htarget : Format.binary64.targetExponent (totalExponent (m * 2 ^ k) (t - k)) = t := by
    rw [targetExponent_eq, totalExponent, log2_mul_two_pow (by omega), log2_eq_of_bounds hlow hhigh]
    omega
  have hamount : (t - (t - k)).toNat = k := by omega
  rw [shiftToTargetExponent, htarget, shiftToExponent, hamount, ExtendedMantissa.ofMantissaAndAccuracy,
    shiftRight_exact, Int.sub_add_cancel]

theorem roundWithAccuracy_exact (s : Sign) (hpos : 0 < m) (k : Nat) :
    roundWithAccuracy .binary64 s (m * 2 ^ k) (t - k) .exact = .finite s m t hpos := by
  have hfirst := shiftToTargetExponent_exact hlow hhigh ht k
  have hagain := shiftToTargetExponent_exact hlow hhigh ht 0
  have hrounded : (⟨m, false, false⟩ : ExtendedMantissa).roundedMantissa = m := rfl
  rw [Nat.pow_zero, Nat.mul_one, Int.ofNat_zero, Int.sub_zero] at hagain
  unfold roundWithAccuracy
  rw [hfirst]
  dsimp only
  rw [hrounded, hagain]
  exact dif_neg (Nat.ne_of_gt hpos)

end

/-- A number that fits into 53 digits is rounded to itself. -/
theorem kept_round (s : Sign) {m n : Nat} {e : Int} (h : Scaled m e n) (hpos : 0 < n) (hsafe : n < 2 ^ 53) :
    Kept (UnpackedFloat.round .binary64 s m e) (s.apply n) := by
  obtain ⟨k, hlow, hhigh⟩ := exists_digits hpos hsafe
  have hdigits : 0 < n * 2 ^ k := by omega
  have hlog : n.log2 + k = 52 := by rw [← log2_mul_two_pow hpos, log2_eq_of_bounds hlow hhigh]
  have htarget : Format.binary64.targetExponent (totalExponent m e) = -k := by
    have := h.log2_eq hpos
    rw [targetExponent_eq, totalExponent]
    omega
  have hround : UnpackedFloat.round .binary64 s m e = .finite s (n * 2 ^ k) (-k) hdigits := by
    rw [UnpackedFloat.round, htarget, decreaseExponent, Nat.shiftLeft_eq]
    rcases Int.le_total (-k) e with he | he
    · -- There are digits to spare, so zeros are put behind the mantissa.
      have hmantissa : m * 2 ^ (e - -(k : Int)).toNat = n * 2 ^ k := by
        refine Nat.eq_of_mul_eq_mul_right (Nat.two_pow_pos (-e).toNat) ?_
        rw [Nat.mul_right_comm n, ← h, Nat.mul_assoc, Nat.mul_assoc, ← Nat.pow_add, ← Nat.pow_add]
        congr 2
        omega
      have hexponent : e - ((e - -(k : Int)).toNat : Int) = -k := by omega
      have hexact := roundWithAccuracy_exact hlow hhigh (by omega : -1074 ≤ -(k : Int)) s hdigits 0
      rw [Nat.pow_zero, Nat.mul_one, Int.ofNat_zero, Int.sub_zero] at hexact
      rw [hmantissa, hexponent]
      exact hexact
    · -- The mantissa is too long, but what is cut off are zeros.
      have hshift : (e - -(k : Int)).toNat = 0 := by omega
      have hmantissa : m = n * 2 ^ k * 2 ^ (-(k : Int) - e).toNat := by
        have hup : e.toNat = 0 := by omega
        rw [Scaled, hup, Nat.pow_zero, Nat.mul_one] at h
        rw [h, Nat.mul_assoc, ← Nat.pow_add]
        congr 2
        omega
      have hexponent : e - ((0 : Nat) : Int) = -(k : Int) - ((-(k : Int) - e).toNat : Int) := by omega
      rw [hshift, Nat.pow_zero, Nat.mul_one, hexponent, hmantissa]
      exact roundWithAccuracy_exact hlow hhigh (by omega) s hdigits _
  rw [hround]
  exact .digits s n k hdigits hlow hhigh

theorem kept_normalize {m i e : Int} (h : m * 2 ^ e.toNat = i * 2 ^ (-e).toNat) (hsafe : Safe i) (s : Sign) :
    Kept (UnpackedFloat.normalize .binary64 m e s) i := by
  have hup : (0 : Int) < 2 ^ e.toNat := Int.pow_pos (by decide)
  have hdown : (0 : Int) < 2 ^ (-e).toNat := Int.pow_pos (by decide)
  have habs : Scaled m.natAbs e i.natAbs := by
    have habs := congrArg Int.natAbs h
    rwa [Int.natAbs_mul, Int.natAbs_mul, Int.natAbs_pow, Int.natAbs_pow] at habs
  have hsign : m.sign = i.sign := by
    have hsign := congrArg Int.sign h
    rwa [Int.sign_mul, Int.sign_mul, Int.sign_eq_one_of_pos hup, Int.sign_eq_one_of_pos hdown, Int.mul_one,
      Int.mul_one] at hsign
  unfold UnpackedFloat.normalize
  rcases Int.lt_trichotomy i 0 with hi | rfl | hi
  · have hm : m < 0 := Int.sign_eq_neg_one_iff_neg.mp (hsign.trans (Int.sign_eq_neg_one_of_neg hi))
    have hround := kept_round .negative habs (by omega) hsafe
    rw [Int.compare_eq_lt.mpr hm]
    dsimp only
    rwa [show (-m).toNat = m.natAbs by omega, show i = Sign.negative.apply i.natAbs by rw [Sign.apply]; omega]
  · have hm : m = 0 := Int.sign_eq_zero_iff_zero.mp hsign
    rw [hm]
    exact .zero s
  · have hm : 0 < m := Int.sign_eq_one_iff_pos.mp (hsign.trans (Int.sign_eq_one_of_pos hi))
    have hround := kept_round .positive habs (by omega) hsafe
    rw [Int.compare_eq_gt.mpr hm]
    dsimp only
    rwa [show m.toNat = m.natAbs by omega, show i = Sign.positive.apply i.natAbs by rw [Sign.apply]; omega]

/-! ### Sums and differences -/

theorem apply_mul (s : Sign) (a b : Int) : s.apply (a * b) = s.apply a * b := by
  cases s with
  | positive => rfl
  | negative => exact (Int.neg_mul a b).symm

theorem apply_neg (s : Sign) (i : Int) : (-s).apply i = -s.apply i := by
  cases s with
  | positive => rfl
  | negative => exact (Int.neg_neg i).symm

theorem natAbs_apply (s : Sign) (n : Nat) : (s.apply n).natAbs = n := by
  cases s <;> rw [Sign.apply] <;> omega

/-- A number with more digits behind the point. -/
theorem decreaseExponent_digits (n : Nat) {k l : Nat} (h : k ≤ l) :
    (decreaseExponent (n * 2 ^ k) (-k) (-l)).1 = n * 2 ^ l := by
  have hshift : (-(k : Int) - -(l : Int)).toNat = l - k := by omega
  rw [decreaseExponent, hshift, Nat.shiftLeft_eq, Nat.mul_assoc, ← Nat.pow_add, Nat.add_sub_cancel' h]

namespace Kept

theorem add {u v : UnpackedFloat} {i j : Int} (hu : Kept u i) (hv : Kept v j) (hsafe : Safe (i + j)) :
    Kept (UnpackedFloat.add .binary64 u v) (i + j) := by
  cases hu with
  | zero s =>
    rw [Int.zero_add]
    cases hv with
    | zero t => cases s <;> cases t <;> exact .zero _
    | digits t n l hpos hlow hhigh => exact .digits t n l hpos hlow hhigh
  | digits s m k hmpos hmlow hmhigh =>
    cases hv with
    | zero t =>
      rw [Int.add_zero]
      exact .digits s m k hmpos hmlow hmhigh
    | digits t n l hnpos hnlow hnhigh =>
      -- Both are written with as many digits behind the point as the one that has more.
      have hexponent : min (-(k : Int)) (-(l : Int)) = -((max k l : Nat) : Int) := by omega
      have hup : (-((max k l : Nat) : Int)).toNat = 0 := by omega
      have hdown : (- -((max k l : Nat) : Int)).toNat = max k l := by omega
      unfold UnpackedFloat.add
      dsimp only
      rw [hexponent, decreaseExponent_digits m (Nat.le_max_left k l), decreaseExponent_digits n (Nat.le_max_right k l)]
      refine kept_normalize ?_ hsafe .positive
      rw [hup, hdown, Int.pow_zero, Int.mul_one, Int.natCast_mul, Int.natCast_mul, apply_mul, apply_mul, ← Int.add_mul,
        Int.natCast_pow]
      rfl

theorem neg {u : UnpackedFloat} {i : Int} (h : Kept u i) : Kept u.neg (-i) := by
  cases h with
  | zero s => exact .zero (-s)
  | digits s n k hpos hlow hhigh =>
    rw [← apply_neg]
    exact .digits (-s) n k hpos hlow hhigh

end Kept

theorem sub_eq_add_neg (u v : UnpackedFloat) :
    UnpackedFloat.sub .binary64 u v = UnpackedFloat.add .binary64 u v.neg := by
  cases u with
  | finite s m e hm =>
    cases v with
    | finite t n f hn =>
      unfold UnpackedFloat.sub UnpackedFloat.add UnpackedFloat.neg
      dsimp only
      rw [apply_neg, Int.sub_eq_add_neg]
    | zero t | infinity t | notANumber => rfl
  | zero s | infinity s | notANumber => cases v <;> rfl

/-! ### Remainders -/

/-- What is left of a number when it is divided by `q`, with the sign of the number. It has no more digits than the
    number, so nothing is lost in it. -/
def leftOver (q : Nat) : UnpackedFloat → UnpackedFloat
  | .zero s => .zero s
  | .finite s m e _ =>
    UnpackedFloat.normalize .binary64 (s.apply (m * 2 ^ e.toNat % (q * 2 ^ (-e).toNat) : Nat)) (min e 0) s
  | .infinity _ | .notANumber => .notANumber

theorem apply_tmod (s : Sign) (n q : Nat) : (s.apply n).tmod q = s.apply (n % q : Nat) := by
  cases s with
  | positive => rfl
  | negative => exact Int.neg_tmod n q

theorem Kept.leftOver {u : UnpackedFloat} {i : Int} (h : Kept u i) (q : Nat) : Kept (leftOver q u) (i.tmod q) := by
  cases h with
  | zero s =>
    rw [Int.zero_tmod]
    exact .zero s
  | digits s n k hpos hlow hhigh =>
    have hup : (-(k : Int)).toNat = 0 := by omega
    have hdown : (- -(k : Int)).toNat = k := by omega
    have hexponent : min (-(k : Int)) 0 = -k := by omega
    have hsafe : Safe (s.apply (n % q : Nat)) := by
      rw [Safe, natAbs_apply]
      exact Nat.lt_of_le_of_lt ((Nat.mod_le n q).trans (Nat.le_mul_of_pos_right n (Nat.two_pow_pos k))) hhigh
    rw [apply_tmod]
    unfold Whole.leftOver
    dsimp only
    rw [hup, hdown, hexponent, Nat.pow_zero, Nat.mul_one, Nat.mul_mod_mul_right]
    refine kept_normalize ?_ hsafe s
    rw [hup, hdown, Int.pow_zero, Int.mul_one, Int.natCast_mul, apply_mul, Int.natCast_pow]
    rfl

theorem Kept.lt_zero_iff {u : UnpackedFloat} {i : Int} (h : Kept u i) : u.lt (.zero .positive) = true ↔ i < 0 := by
  cases h with
  | zero s => cases s <;> exact iff_of_false (by decide) (by decide)
  | digits s n k hpos hlow hhigh =>
    have hn : 0 < n := Nat.pos_of_mul_pos_right hpos
    cases s with
    | positive => exact iff_of_false Bool.false_ne_true (Int.not_lt.mpr (Int.natCast_nonneg n))
    | negative => exact iff_of_true rfl (Int.neg_neg_of_pos (Int.natCast_pos.mpr hn))

/-! ### Bits -/

theorem ofBitVec_unpackSign_packComponents (s : Sign) (e : BitVec 11) (m : BitVec 52) :
    Sign.ofBitVec (unpackSign (packComponents .binary64 s e m)) = s := by
  unfold unpackSign packComponents BitVec.extractLsb
  rw [BitVec.extractLsb'_append_eq_of_le (by decide), BitVec.extractLsb'_append_eq_of_le (by decide)]
  cases s <;> rfl

theorem finite_eq {s t : Sign} {m n : Nat} {e f : Int} (hs : s = t) (hm : m = n) (he : e = f) (hpos : 0 < m)
    (hpos' : 0 < n) : UnpackedFloat.finite s m e hpos = .finite t n f hpos' := by
  subst hs hm he
  rfl

theorem toNat_one_append (v : BitVec 52) : (1#1 ++ v).toNat = 2 ^ 52 + v.toNat := by
  rw [BitVec.toNat_append, ← Nat.shiftLeft_add_eq_or_of_lt v.isLt]
  rfl

section
variable {m k : Nat} (hlow : 2 ^ 52 ≤ m) (hhigh : m < 2 ^ 53) (hk : k < 53)
include hlow hhigh hk

theorem pack_digits (s : Sign) (hpos : 0 < m) :
    UnpackedFloat.pack .binary64 (.finite s m (-k) hpos) =
      packComponents .binary64 s (BitVec.ofNat 11 (1075 - k)) (BitVec.ofNat 52 m) := by
  have hbiased : (-(k : Int) + Format.binary64.exponentBias + Format.binary64.mantissaBitsWithoutImplicit).toNat =
      1075 - k := by
    show (-(k : Int) + (1023 : Nat) + (52 : Nat)).toNat = 1075 - k
    omega
  have hfinite : ¬2 ^ Format.binary64.exponentBits ≤ 1075 - k + 1 := by
    show ¬2048 ≤ 1075 - k + 1
    omega
  unfold UnpackedFloat.pack
  dsimp only
  rw [hbiased, log2_eq_of_bounds hlow hhigh, if_neg hfinite, if_pos (by decide)]

theorem unpack_digits (s : Sign) (hpos : 0 < m) :
    UnpackedFloat.unpack .binary64 (packComponents .binary64 s (BitVec.ofNat 11 (1075 - k)) (BitVec.ofNat 52 m)) =
      .finite s m (-k) hpos := by
  have hexponent : (BitVec.ofNat 11 (1075 - k)).toNat = 1075 - k := by
    rw [BitVec.toNat_ofNat, Nat.mod_eq_of_lt (by omega)]
  have hmantissa : (1#1 ++ BitVec.ofNat 52 m).toNat = m := by
    rw [toNat_one_append, BitVec.toNat_ofNat]
    omega
  have hne : ∀ b : BitVec 11, b.toNat = 0 ∨ b.toNat = 2047 → BitVec.ofNat 11 (1075 - k) ≠ b := by
    rintro b hb rfl
    omega
  unfold UnpackedFloat.unpack
  dsimp only
  rw [unpackExponent_packComponents, if_neg (hne _ (Or.inr rfl)), if_neg (hne _ (Or.inl rfl))]
  refine finite_eq (ofBitVec_unpackSign_packComponents s _ _) ?_ ?_ _ hpos
  · rw [unpackMantissa_packComponents]
    exact hmantissa
  · rw [hexponent]
    show ((1075 - k : Nat) : Int) - ((1023 : Nat) + (52 : Nat)) = -k
    omega

end

theorem Kept.unpack_pack {u : UnpackedFloat} {i : Int} (h : Kept u i) : (Float.Model.pack u).unpack = u := by
  cases h with
  | zero s => cases s <;> rfl
  | digits s n k hpos hlow hhigh =>
    have hk := lt_of_digits hpos hhigh
    show UnpackedFloat.unpack .binary64 (UnpackedFloat.pack .binary64 _) = _
    rw [pack_digits hlow hhigh hk, unpack_digits hlow hhigh hk]

theorem unpack_finite {b : BitVec 64} {s : Sign} {m : Nat} {e : Int} {hpos : 0 < m}
    (h : UnpackedFloat.unpack .binary64 b = .finite s m e hpos) : 2 ^ 52 ≤ m ∧ m < 2 ^ 53 ∨ m < 2 ^ 52 ∧ e = -1074 := by
  unfold UnpackedFloat.unpack at h
  dsimp only at h
  by_cases hones : @unpackExponent .binary64 b = -1#11
  · rw [if_pos hones] at h
    by_cases hmantissa : @unpackMantissa .binary64 b = 0#52
    · rw [if_pos hmantissa] at h
      cases h
    · rw [if_neg hmantissa] at h
      cases h
  · rw [if_neg hones] at h
    by_cases hzero : @unpackExponent .binary64 b = 0#11
    · rw [if_pos hzero] at h
      by_cases hmantissa : @unpackMantissa .binary64 b = 0#52
      · rw [dif_pos hmantissa] at h
        cases h
      · rw [dif_neg hmantissa, hzero] at h
        cases h
        exact Or.inr ⟨BitVec.isLt _, rfl⟩
    · rw [if_neg hzero] at h
      cases h
      have hlt := (@unpackMantissa .binary64 b).isLt
      have hone := toNat_one_append (@unpackMantissa .binary64 b)
      exact Or.inl ⟨by omega, by omega⟩

/-! ### Numbers -/

theorem kept_of_integer? {x : Float} {i : Int} (h : integer? x = some i) (hsafe : Safe i) :
    Kept x.toModel.unpack i := by
  unfold integer? at h
  cases hx : x.toModel.unpack with
  | infinity s | notANumber =>
    rw [hx] at h
    cases h
  | zero s =>
    rw [hx] at h
    cases h
    exact .zero s
  | finite s m e hpos =>
    rw [hx] at h
    obtain ⟨hdivides, hi⟩ := Option.ite_none_right_eq_some.mp h
    cases hi
    rcases unpack_finite hx with ⟨hlow, hhigh⟩ | ⟨hlow, rfl⟩
    · rcases Int.le_total 0 e with he | he
      · -- With zeros behind its 53 digits the number would not be safe.
        have hdown : (-e).toNat = 0 := by omega
        rw [hdown, Nat.pow_zero, Nat.div_one] at hsafe ⊢
        rw [Safe, natAbs_apply] at hsafe
        have hup : e.toNat = 0 := by
          refine Nat.eq_zero_of_not_pos fun hup => ?_
          have htwice := Nat.mul_le_mul_left m (Nat.pow_le_pow_right Nat.two_pos hup)
          omega
        exact .of_eq hpos (by rw [hup]; omega) (by omega : e = -(0 : Nat)) hlow hhigh
      · have hup : e.toNat = 0 := by omega
        rw [hup, Nat.pow_zero, Nat.mul_one] at hdivides ⊢
        exact .of_eq hpos (Nat.div_mul_cancel (Nat.dvd_of_mod_eq_zero hdivides)).symm (by omega) hlow hhigh
    · -- A number with fewer than 53 digits is too small to be an integer.
      have hsmall : m < 2 ^ (- -1074 : Int).toNat :=
        Nat.lt_of_lt_of_le hlow (Nat.pow_le_pow_right Nat.two_pos (by decide))
      rw [show (-1074 : Int).toNat = 0 from rfl, Nat.pow_zero, Nat.mul_one, Nat.mod_eq_of_lt hsmall] at hdivides
      omega

theorem Kept.integer?_pack {u : UnpackedFloat} {i : Int} (h : Kept u i) : integer? ⟨.pack u⟩ = some i := by
  rw [integer?, h.unpack_pack, h.whole?_eq]

theorem integer?_toFloat (n : UInt32) : integer? n.toFloat = some (n.toNat : Int) := by
  have hsafe : Safe n.toNat := Nat.lt_trans n.toNat_lt (by decide)
  exact (kept_normalize rfl hsafe .positive).integer?_pack

/-- Multiplying with one, which is 53 digits like any other number, only puts zeros behind the mantissa. -/
theorem Kept.mul_one {u : UnpackedFloat} {i : Int} (h : Kept u i) :
    UnpackedFloat.mul .binary64 u (.finite .positive (2 ^ 52) (-52) (by decide)) = u := by
  cases h with
  | zero s => cases s <;> rfl
  | digits s n k hpos hlow hhigh =>
    have hk := lt_of_digits hpos hhigh
    have hexact := roundWithAccuracy_exact hlow hhigh (by omega : -1074 ≤ -(k : Int)) s hpos 52
    cases s <;> exact hexact

-- A natural number is converted as a number with an exponent, by way of 64 bits and of the power `10 ^ 0`.
theorem integer?_natToFloat {n : Nat} (h : n < 2 ^ 53) : integer? n.toFloat = some (n : Int) := by
  have hsafe : Safe n := h
  have hword : n.toUInt64.toNat = n := UInt64.toNat_ofNat_of_lt' (Nat.lt_trans h (by decide))
  have hkept : Kept (UnpackedFloat.ofUInt64 .binary64 n.toUInt64) n := by
    unfold UnpackedFloat.ofUInt64 UnpackedFloat.ofNat UnpackedFloat.ofInt
    rw [hword]
    exact kept_normalize rfl hsafe .positive
  have hone : Float.exactlyRepresentablePowersOfTen[0].toModel.unpack = .finite .positive (2 ^ 52) (-52) (by decide) :=
    rfl
  have hproduct : n.toFloat =
      ⟨.pack (UnpackedFloat.mul .binary64 (Float.Model.pack (UnpackedFloat.ofUInt64 .binary64 n.toUInt64)).unpack
        Float.exactlyRepresentablePowersOfTen[0].toModel.unpack)⟩ := by
    show Float.ofScientific n false 0 = _
    rw [Float.ofScientific, dif_pos ⟨h, Nat.zero_le _⟩]
    rfl
  rw [hproduct, hone, hkept.unpack_pack, hkept.mul_one]
  exact hkept.integer?_pack

section
variable {x y : Float} {i j : Int} (hx : integer? x = some i) (hy : integer? y = some j) (hi : Safe i) (hj : Safe j)
include hx hy hi hj

theorem integer?_add (h : Safe (i + j)) : integer? (x + y) = some (i + j) :=
  ((kept_of_integer? hx hi).add (kept_of_integer? hy hj) h).integer?_pack

theorem integer?_sub (h : Safe (i - j)) : integer? (x - y) = some (i - j) := by
  have hkept := (kept_of_integer? hx hi).add (kept_of_integer? hy hj).neg h
  rw [← sub_eq_add_neg] at hkept
  exact hkept.integer?_pack

end

theorem lt_zero_iff {x : Float} {i : Int} (hx : integer? x = some i) (hi : Safe i) : x < 0.0 ↔ i < 0 :=
  decide_eq_true_iff.trans (kept_of_integer? hx hi).lt_zero_iff

theorem integer?_leftOver {x : Float} {i : Int} (hx : integer? x = some i) (hi : Safe i) (q : Nat) :
    integer? ⟨.pack (leftOver q x.toModel.unpack)⟩ = some (i.tmod q) :=
  ((kept_of_integer? hx hi).leftOver q).integer?_pack

end TurtleGraphics.Whole
