import Mathlib
import PuzzlePrograms.Number.Binary64

/-!
# Floating point numbers that stay finite

Sums, differences and products of floating point numbers are finite as long as the operands are not too large. The
size of a number is measured by its exponent field: every operation raises a bound on the fields by a fixed amount, and
a field below 2047 is that of a finite number, which has a nearest whole number.
-/

namespace PuzzlePrograms.Binary64

open Float.Model Float.Model.UnpackedFloat

/-! ## 1. The exponent field -/

/-- The eleven bits between sign and fraction. -/
def exponentField (x : Float) : Nat := x.toBits.toNat / 2 ^ 52 % 2048

/-- A finite number whose exponent field is at most `b`. -/
def Within (b : Nat) : UnpackedFloat → Prop
  | .zero _ => True
  | .finite _ m e _ => m < 2 ^ 53 ∧ e + 1075 ≤ b
  | _ => False

/-- A finite result whose exponent, before it is packed, calls for a field of at most `b`. -/
def Fits (b : Nat) : UnpackedFloat → Prop
  | .zero _ => True
  | .finite _ _ e _ => e + 1075 ≤ b
  | _ => False

theorem toNat_unpackExponent (v : BitVec 64) : (@unpackExponent .binary64 v).toNat = v.toNat / 2 ^ 52 % 2048 := by
  simp only [unpackExponent, BitVec.toNat_cast, BitVec.extractLsb_toNat]
  rw [Nat.shiftRight_eq_div_pow]

theorem within_unpack {v : BitVec 64} {b : Nat} (hv : v.toNat / 2 ^ 52 % 2048 ≤ b) (hb : 1 ≤ b) (hlt : b < 2047) :
    Within b (.unpack .binary64 v) := by
  rw [← toNat_unpackExponent] at hv
  unfold UnpackedFloat.unpack
  generalize @unpackExponent .binary64 v = X at hv ⊢
  change BitVec 11 at X
  have hbias : ((Format.binary64.exponentBias : Int) + (Format.binary64.mantissaBitsWithoutImplicit : Nat)) = 1075 := by
    decide
  have hfin : X ≠ -1#11 := by
    rintro rfl
    have : (-1#11 : BitVec 11).toNat = 2047 := by decide
    omega
  have hM : (@unpackMantissa .binary64 v).toNat < 2 ^ 52 := BitVec.isLt _
  simp only [hbias]
  rw [if_neg hfin]
  split
  · split
    · trivial
    · refine ⟨by omega, ?_⟩
      have hX : X.toNat = 0 := by simp_all
      omega
  · exact ⟨BitVec.isLt (1#1 ++ @unpackMantissa .binary64 v), by omega⟩

theorem unpack_cases {x : Float} {b : Nat} (hx : exponentField x ≤ b) (hb : 1 ≤ b) (hlt : b < 2047) :
    (∃ s, x.toModel.unpack = .zero s) ∨ ∃ s m e hm, x.toModel.unpack = .finite s m e hm ∧ m < 2 ^ 53 ∧ e + 1075 ≤
    b := by
  have h : Within b x.toModel.unpack := within_unpack hx hb hlt
  cases hu : x.toModel.unpack with
  | infinity | notANumber => exact (hu ▸ h :).elim
  | zero s => exact .inl ⟨s, rfl⟩
  | finite s m e hm =>
    rw [hu] at h
    exact .inr ⟨s, m, e, hm, rfl, h⟩

theorem exponentField_pack {u : UnpackedFloat} {b : Nat} (hu : Fits b u) (hlt : b < 2047) :
    exponentField (.ofModel (.pack u)) ≤ b := by
  have hbits : exponentField (.ofModel (.pack u)) = (@unpackExponent .binary64 (pack .binary64 u)).toNat :=
    (toNat_unpackExponent _).symm
  rw [hbits]
  match u, hu with
  | .zero s, _ =>
    unfold UnpackedFloat.pack
    simp [packedZero]
  | .finite s m e hm, hu =>
    have hbias :
      e + (Format.binary64.exponentBias : Int) + (Format.binary64.mantissaBitsWithoutImplicit : Nat) = e + 1075 := by
      have : ((Format.binary64.exponentBias : Int) + (Format.binary64.mantissaBitsWithoutImplicit : Nat)) = 1075 := by
        decide
      omega
    change e + 1075 ≤ b at hu
    unfold UnpackedFloat.pack
    simp only [hbias]
    rw [if_neg (by omega)]
    split
    · rw [unpackExponent_packComponents]
      rw [BitVec.toNat_ofNat]
      omega
    · rw [unpackExponent_packComponents]
      simp

/-! ## 2. Rounding -/

theorem mantissa_shiftRight (em : ExtendedMantissa) (k : Nat) : (em >>> k).mantissa = em.mantissa / 2 ^ k := by
  induction k with
  | zero => exact (Nat.div_one _).symm
  | succ k ih =>
    have hstep : (em >>> (k + 1)).mantissa = (em >>> k).mantissa / 2 := rfl
    rw [hstep, ih, Nat.div_div_eq_div_mul, ← Nat.pow_succ]

theorem roundedMantissa_le (em : ExtendedMantissa) : em.roundedMantissa ≤ em.mantissa + 1 := by
  obtain ⟨m, r, s⟩ := em
  cases r <;> cases s <;>
    simp only [ExtendedMantissa.roundedMantissa, ExtendedMantissa.accuracy, Accuracy.roundToNearestEven] <;> omega

theorem targetExponent_eq (m : Nat) (e : Int) :
    Format.binary64.targetExponent (totalExponent m e) = max (m.log2 + 1 + e - 53) (-1074) := by
  have hbits : Format.binary64.mantissaBits = 53 := rfl
  simp [Format.targetExponent, totalExponent, hbits, Format.minExponent]

theorem fits_roundWithAccuracy {s : Sign} {m L : Nat} {e : Int} {acc : Accuracy} {b : Nat} (hm : m < 2 ^ L)
    (he : e + 1075 ≤ b) (hL : L + e + 1023 ≤ b) (hb : 1 ≤ b) : Fits b (roundWithAccuracy .binary64 s m e acc) := by
  have hmant : (ExtendedMantissa.ofMantissaAndAccuracy m acc).mantissa = m := by
    cases acc with
    | exact => rfl
    | inexact o => cases o <;> rfl
  have hlog : ∀ {n K : Nat}, n ≤ 2 ^ K → n.log2 ≤ K := fun {n K} hn => by
    rcases Nat.eq_zero_or_pos n with rfl | hpos
    · simp
    · exact Nat.lt_succ_iff.mp ((Nat.log2_lt hpos.ne').mpr (hn.trans_lt (Nat.pow_lt_pow_right (by decide) (by omega))))
  have hmL : m.log2 + 1 ≤ L ∨ m.log2 = 0 := by
    rcases Nat.eq_zero_or_pos m with rfl | hpos
    · exact .inr (by simp)
    · exact .inl ((Nat.log2_lt hpos.ne').mpr hm)
  unfold roundWithAccuracy
  dsimp only
  split
  · trivial
  · rw [Fits]
    simp only [shiftToTargetExponent, shiftToExponent, targetExponent_eq]
    generalize hk : (max ((m.log2 : Int) + 1 + e - 53) (-1074) - e).toNat = k
    generalize hR : (ExtendedMantissa.ofMantissaAndAccuracy m acc >>> k).roundedMantissa = R
    have hRle : R ≤ m / 2 ^ k + 1 := by
      rw [← hR, ← congrArg (· / 2 ^ k) hmant, ← mantissa_shiftRight]
      exact roundedMantissa_le _
    -- the rounded mantissa has at most one bit more than is left of the mantissa
    have hRlog : R.log2 ≤ L - k := by
      refine hlog (hRle.trans ?_)
      have : m / 2 ^ k < 2 ^ (L - k) := by
        rw [Nat.div_lt_iff_lt_mul (by positivity), ← Nat.pow_add]
        exact hm.trans_le (Nat.pow_le_pow_right (by decide) (by omega))
      omega
    omega

/-! ## 3. Operations -/

variable {x y : Float} {b c : Nat}

theorem fits_normalize {m : Int} {e : Int} {L b : Nat} (hm : m.natAbs < 2 ^ L) (he : e + 1075 ≤ b)
    (hL : L + e + 1023 ≤ b) (hb : 1 ≤ b) : Fits b (normalize .binary64 m e .positive) := by
  have hround : ∀ (s : Sign) (n : Nat), n < 2 ^ L → Fits b (round .binary64 s n e) := by
    intro s n hn
    simp only [UnpackedFloat.round, decreaseExponent, targetExponent_eq]
    generalize (e - max ((n.log2 : Int) + 1 + e - 53) (-1074)).toNat = k
    refine @fits_roundWithAccuracy s (n <<< k) (L + k) (e - k) .exact b ?_ (by omega) (by push_cast; omega) hb
    rw [Nat.shiftLeft_eq, Nat.pow_add]
    exact Nat.mul_lt_mul_of_pos_right hn (by positivity)
  unfold UnpackedFloat.normalize
  split
  · exact hround _ _ (by omega)
  · trivial
  · exact hround _ _ (by omega)

theorem exponentField_mul (hx : exponentField x ≤ b) (hy : exponentField y ≤ c) {d : Nat} (hb : 1 ≤ b ∧ b < 2047 := by
      omega) (hc : 1 ≤ c ∧ c < 2047 := by omega) (hd : b + c ≤ d + 1021 := by omega) (hd' : 1 ≤ d ∧ d < 2047 := by
      omega) : exponentField (x * y) ≤ d := by
  refine exponentField_pack ?_ hd'.2
  rcases unpack_cases hx hb.1 hb.2 with ⟨s, hu⟩ | ⟨s, m, e, hm, hu, hm', he⟩ <;>
    rcases unpack_cases hy hc.1 hc.2 with ⟨t, hv⟩ | ⟨t, n, g, hn, hv, hn', hg⟩ <;> rw [hu, hv]
  · trivial
  · trivial
  · trivial
  · have hmn : m * n < 2 ^ 106 := by
      calc m * n < 2 ^ 53 * 2 ^ 53 := Nat.mul_lt_mul'' hm' hn'
        _ = 2 ^ 106 := by norm_num
    exact fits_roundWithAccuracy hmn (by omega) (by omega) hd'.1

theorem natAbs_shifted {s : Sign} {m : Nat} {e l : Int} {K : Nat} (hm : m < 2 ^ 53) (hK : (e - l).toNat ≤ K) :
    (s.apply ((m <<< (e - l).toNat : Nat) : Int)).natAbs < 2 ^ (53 + K) := by
  have habs : ∀ n : Nat, (s.apply (n : Int)).natAbs = n := fun n => by cases s <;> simp [Sign.apply]
  rw [habs, Nat.shiftLeft_eq, Nat.pow_add]
  exact Nat.mul_lt_mul_of_lt_of_le hm (Nat.pow_le_pow_right (by decide) hK) (by positivity)

theorem fits_sum {s t : Sign} {m n : Nat} {e g : Int} {sum : Int} (hm : m < 2 ^ 53) (hn : n < 2 ^ 53) (he : e + 1075 ≤
      b) (hg : g + 1075 ≤ b) (hsum : sum.natAbs ≤ (s.apply ((m <<< (e - min e g).toNat : Nat) : Int)).natAbs +
      (t.apply ((n <<< (g - min e g).toNat : Nat) : Int)).natAbs) :
    Fits (b + 2) (normalize .binary64 sum (min e g) .positive) := by
  have hK : ∀ {a : Int}, a + 1075 ≤ b → (a - min e g).toNat ≤ ((b : Int) - 1075 - min e g).toNat := fun _ => by omega
  have h₁ := natAbs_shifted (s := s) hm (hK he)
  have h₂ := natAbs_shifted (s := t) hn (hK hg)
  refine @fits_normalize sum (min e g) (53 + ((b : Int) - 1075 - min e g).toNat + 1) (b + 2) ?_ (by omega) (by omega)
    (by omega)
  rw [Nat.pow_succ]
  omega

theorem exponentField_add_sub (hx : exponentField x ≤ b) (hy : exponentField y ≤ b) (hb : 1 ≤ b ∧ b < 2045) :
    exponentField (x + y) ≤ b + 2 ∧ exponentField (x - y) ≤ b + 2 := by
  refine ⟨exponentField_pack ?_ (by omega), exponentField_pack ?_ (by omega)⟩ <;>
    rcases unpack_cases hx hb.1 (by omega) with ⟨s, hu⟩ | ⟨s, m, e, hm, hu, hm', he⟩ <;>
    rcases unpack_cases hy hb.1 (by omega) with ⟨t, hv⟩ | ⟨t, n, g, hn, hv, hn', hg⟩ <;> rw [hu, hv]
  case refine_1.inl.inl | refine_2.inl.inl =>
    simp only [UnpackedFloat.add, UnpackedFloat.sub]
    split <;> trivial
  case refine_1.inl.inr | refine_2.inl.inr => exact show g + 1075 ≤ _ by omega
  case refine_1.inr.inl | refine_2.inr.inl => exact show e + 1075 ≤ _ by omega
  · exact fits_sum hm' hn' he hg (Int.natAbs_add_le _ _)
  · exact fits_sum hm' hn' he hg (Int.natAbs_sub_le _ _)

/-! ## 4. Whole numbers and fractions -/

theorem roundEven_isSome (hx : exponentField x < 2047) : ∃ i, roundEven x = some i := by
  have hdec : ∃ p, decode x = some p := by
    simp only [decode]
    rw [if_neg (by simpa [exponentField] using hx.ne)]
    exact ⟨_, rfl⟩
  obtain ⟨p, hp⟩ := hdec
  exact ⟨_, by rw [roundEven, hp]; rfl⟩

theorem exponentField_ofBits {n : Nat} (hn : n / 2 ^ 52 % 2048 ≤ b) (hlt : n < 2 ^ 64) (hb : 1 ≤ b ∧ b < 2047) :
    exponentField (Float.ofBits (UInt64.ofNat n)) ≤ b := by
  refine exponentField_pack ?_ hb.2
  have hbits : (UInt64.ofNat n).toBitVec.toNat = n := by simpa using hlt
  have hw : Within b (unpack .binary64 (UInt64.ofNat n).toBitVec) := within_unpack (by rw [hbits]; exact hn) hb.1 hb.2
  generalize unpack .binary64 (UInt64.ofNat n).toBitVec = u at hw ⊢
  cases u with
  | infinity | notANumber => exact hw
  | zero s => trivial
  | finite s m e hm => exact hw.2

theorem magnitudeOfRatio_one {n K : Nat} (hpos : 0 < n) (hn : n < 2 ^ K) (hK : K ≤ 1000) :
    ∃ bits, magnitudeOfRatio n 1 = some bits ∧ bits ≤ (K + 1023) * 2 ^ 52 := by
  have hlog : n.log2 < K := (Nat.log2_lt hpos.ne').mpr hn
  have hlow : 2 ^ n.log2 ≤ n := Nat.log2_self_le hpos.ne'
  have hhigh : n < 2 ^ (n.log2 + 1) := Nat.lt_log2_self
  have hround : ∀ k d, k < d * 2 ^ 53 → roundDiv k d ≤ 2 ^ 53 := by
    intro k d hd
    have hq : k / d < 2 ^ 53 := by
      rw [Nat.div_lt_iff_lt_mul (by by_contra h; simp_all), Nat.mul_comm]
      exact hd
    simp only [roundDiv]
    split
    · omega
    · split
      · omega
      · split <;> omega
  have hone : Nat.log2 1 = 0 := rfl
  simp only [magnitudeOfRatio, hone]
  generalize n.log2 = l at *
  -- with divisor one the first guess at the exponent is right
  have hfits : ((l : Int) - (0 : Nat) - 52 - 1 + 53).toNat = l := by omega
  have hguess : max ((l : Int) - (0 : Nat) - 52) (-1074) = l - 52 := by omega
  rw [if_pos (show 0 ≤ (l : Int) - (0 : Nat) - 52 - 1 + 53 by omega), hfits,
    if_neg (show ¬decide (n < 1 * 2 ^ l) = true by simpa using hlow), hguess]
  have hmant : (if 0 ≤ (l : Int) - 52 then roundDiv n (1 * 2 ^ ((l : Int) - 52).toNat)
      else roundDiv (n * 2 ^ (-((l : Int) - 52)).toNat) 1) ≤ 2 ^ 53 := by
    split
    · refine hround _ _ ?_
      rw [Nat.one_mul, ← Nat.pow_add, show ((l : Int) - 52).toNat + 53 = l + 1 by omega]
      exact hhigh
    · refine hround _ _ ?_
      rw [Nat.one_mul]
      calc n * 2 ^ (-((l : Int) - 52)).toNat < 2 ^ (l + 1) * 2 ^ (-((l : Int) - 52)).toNat :=
            Nat.mul_lt_mul_of_pos_right hhigh (by positivity)
        _ = 2 ^ 53 := by rw [← Nat.pow_add]; congr 1; omega
  generalize (if 0 ≤ (l : Int) - 52 then roundDiv n (1 * 2 ^ ((l : Int) - 52).toNat)
      else roundDiv (n * 2 ^ (-((l : Int) - 52)).toNat) 1) = m at hmant ⊢
  rw [if_neg (show ¬((l : Int) - 52 == -1074) = true by simp; omega), if_pos (by omega)]
  exact ⟨_, rfl, by omega⟩

theorem exponentField_ofInt {i : Int} {K : Nat} (hi : i.natAbs < 2 ^ K) (hK : K ≤ 1000) :
    ∃ x, ofInt i = some x ∧ exponentField x ≤ K + 1023 := by
  by_cases h0 : i = 0
  · have hzero : exponentField 0.0 = 0 := by decide +kernel
    exact ⟨0.0, by simp [ofInt, ofRatio, h0], by omega⟩
  obtain ⟨bits, hbits, hle⟩ := magnitudeOfRatio_one (by omega) hi hK
  refine ⟨withSign (i < 0) bits, by simp [ofInt, ofRatio, h0, hbits], ?_⟩
  refine exponentField_ofBits ?_ ?_ (by omega)
  all_goals split <;> omega

theorem exponentField_unit : exponentField (1.0 / 9007199254740992.0) = 970 := by decide +kernel

theorem exponentField_ofNat {n : Nat} (hn : n < 2 ^ 53) : exponentField (.ofNat n) ≤ 1078 := by
  have hrun : .ofNat n = n.toUInt64.toFloat * .ofBits 0x3FF0000000000000 := by
    simp only [Float.ofNat, OfScientific.ofScientific, Float.ofScientific]
    rw [dif_pos ⟨hn, by decide⟩]
    rfl
  have hone : exponentField (.ofBits 0x3FF0000000000000) ≤ 1023 := by decide +kernel
  have hconv : exponentField n.toUInt64.toFloat ≤ 1076 := by
    refine exponentField_pack (fits_normalize (L := 53) ?_ (by omega) (by omega) (by omega)) (by omega)
    have : n.toUInt64.toNat ≤ n := by simp [Nat.mod_le]
    omega
  rw [hrun]
  exact exponentField_mul hconv hone

end PuzzlePrograms.Binary64
