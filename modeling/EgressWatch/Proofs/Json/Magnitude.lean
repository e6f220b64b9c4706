import EgressWatch.Json.Number
import Mathlib.Algebra.Group.Nat.Defs

/-!
# Sizes of doubles

A word times a power of ten is no infinity while the exponent stays small:

> `scaled?_isSome`: a significand with an exponent below 35 has a value.

A coarse account of sizes is enough for that. `Below b` says of an unpacked double that it is finite
and that the place of its last binary digit is at most `b`; how many digits it has does not matter,
as there are at most 53 (`Narrow`). So each operation has a bound on how far it moves that place:

* Rounding drops digits and never makes any, and moves the place by no more than the number has
  digits (`roundWithAccuracy_below`).
* Packing into 64 bits and unpacking again changes nothing, as long as the place is no higher than
  that of the largest double (`unpack_pack_below`).
* A product has the places of its factors added and is then rounded (`mul_below`).

A word is below 232 and the powers of ten in question are below 62 (`toFloat_below`,
`powerOfTen_below`), which together stays far below 970, where doubles end
(`isInf_toFloat_mul_powerOfTen`).
-/

namespace EgressWatch.Json

open Float.Model (UnpackedFloat totalExponent)
open Float.Model.Format (binary64)
open Float.Model.UnpackedFloat

theorem dite_induction {P : UnpackedFloat → Prop} {c : Prop} [Decidable c]
    {x : c → UnpackedFloat} {y : ¬ c → UnpackedFloat} (hx : ∀ h, P (x h)) (hy : ∀ h, P (y h)) :
    P (dite c x y) := by
  split
  next h => exact hx h
  next h => exact hy h

/-- The number is finite, and the place of its last binary digit is at most `b`. -/
def Below (b : Int) : UnpackedFloat → Prop
  | .zero _ => True
  | .finite _ _ e _ => e ≤ b
  | .infinity _ => False
  | .notANumber => False

instance (b : Int) (x : UnpackedFloat) : Decidable (Below b x) := by
  cases x <;> unfold Below <;> infer_instance

theorem Below.isInf_eq {b : Int} {x : UnpackedFloat} (h : Below b x) : x.isInf = false := by
  cases x with
  | infinity => exact h.elim
  | notANumber | zero | finite => rfl

/-! ## Rounding -/

theorem shiftRight_mantissa_le (m : ExtendedMantissa) (n : Nat) :
    (m >>> n).mantissa ≤ m.mantissa := by
  show (n.repeat ExtendedMantissa.shiftRightOne m).mantissa ≤ m.mantissa
  induction n with
  | zero => exact Nat.le_refl _
  | succ n ih => exact Nat.le_trans (Nat.div_le_self _ 2) ih

theorem roundedMantissa_le (m : ExtendedMantissa) : m.roundedMantissa ≤ m.mantissa + 1 := by
  unfold ExtendedMantissa.roundedMantissa Accuracy.roundToNearestEven
  split <;> omega

theorem ofMantissaAndAccuracy_mantissa (m : Nat) (a : Accuracy) :
    (ExtendedMantissa.ofMantissaAndAccuracy m a).mantissa = m := by
  unfold ExtendedMantissa.ofMantissaAndAccuracy
  split <;> rfl

theorem totalExponent_le {m k : Nat} {e : Int} (hm : m < 2 ^ k) (hk : 0 < k) :
    totalExponent m e ≤ k + e := by
  have hlog : m.log2 < k := by
    rcases Nat.eq_zero_or_pos m with rfl | hpos
    · simpa using hk
    · exact (Nat.log2_lt (Nat.ne_of_gt hpos)).mpr hm
  simp only [totalExponent]
  omega

theorem targetExponent_eq (t : Int) : binary64.targetExponent t = max (t - 53) (-1074) := rfl

/-- Digits are only dropped, and no more than there are too many. -/
theorem shiftToTargetExponent_le {m k : Nat} {e b : Int} {a : Accuracy} (hm : m < 2 ^ k)
    (hk : 53 ≤ k) (he : e ≤ b) (hb : -1074 ≤ b) :
    (shiftToTargetExponent binary64 m e a).1.mantissa ≤ m ∧
      (shiftToTargetExponent binary64 m e a).2 ≤ b + (k - 53) := by
  have hexp : (shiftToTargetExponent binary64 m e a).2 =
      e + (binary64.targetExponent (totalExponent m e) - e).toNat := rfl
  have htotal := totalExponent_le (e := e) hm (Nat.lt_of_lt_of_le (by decide) hk)
  constructor
  · calc _ ≤ _ := shiftRight_mantissa_le _ _
      _ = m := ofMantissaAndAccuracy_mantissa m a
  · rw [hexp, targetExponent_eq]
    omega

/-- What is rounded grows by no more than the digits it has. -/
theorem roundWithAccuracy_below {s : Sign} {m k : Nat} {e b : Int} {a : Accuracy}
    (hm : m < 2 ^ k) (hk : 53 ≤ k) (he : e ≤ b) (hb : -1074 ≤ b) :
    Below (b + 2 * k) (roundWithAccuracy binary64 s m e a) := by
  obtain ⟨hm₁, he₁⟩ := shiftToTargetExponent_le (a := a) hm hk he hb
  -- rounding up may carry, so there is one more digit to drop
  have hround : (shiftToTargetExponent binary64 m e a).1.roundedMantissa < 2 ^ (k + 1) := by
    have := roundedMantissa_le (shiftToTargetExponent binary64 m e a).1
    rw [Nat.pow_succ]
    omega
  have he₂ := (shiftToTargetExponent_le (a := .exact) hround (by omega) he₁ (by omega)).2
  unfold roundWithAccuracy
  dsimp only
  refine dite_induction (fun _ => trivial) fun _ => ?_
  show _ ≤ _
  omega

/-! ## Packing -/

/-- The number has no more digits than a double. -/
def Narrow : UnpackedFloat → Prop
  | .finite _ m _ _ => m < 2 ^ 53
  | _ => True

theorem narrow_unpack (b : BitVec binary64.numBits) : Narrow (unpack binary64 b) := by
  unfold unpack
  refine iteInduction (fun _ => iteInduction (fun _ => trivial) fun _ => trivial) fun _ =>
    iteInduction (fun _ => dite_induction (fun _ => trivial) fun _ => ?_) fun _ => ?_
  · exact Nat.lt_trans (BitVec.isLt _) (by decide)
  · exact BitVec.isLt _

theorem unpack_mantissa_lt {b : BitVec binary64.numBits} {s : Sign} {m : Nat} {e : Int}
    {h : 0 < m} (hu : unpack binary64 b = .finite s m e h) : m < 2 ^ 53 := by
  have hnarrow := narrow_unpack b
  rwa [hu] at hnarrow

/-- The exponent alone says how large a number is that is kept in bits. -/
theorem unpack_below {c : Int} {b : BitVec binary64.numBits}
    (he : (unpackExponent b).toNat < 2047) (hle : ((unpackExponent b).toNat : Int) - 1075 ≤ c)
    (hlow : -1074 ≤ c) : Below c (unpack binary64 b) := by
  have hne : unpackExponent b ≠ -1#11 := by
    intro heq
    rw [heq] at he
    exact absurd he (by decide)
  unfold unpack
  refine iteInduction (fun h => absurd h hne) fun _ =>
    iteInduction (fun hzero => dite_induction (fun _ => trivial) fun _ => ?_) fun _ => hle
  rw [hzero]
  exact hlow

theorem unpack_packComponents_below {b : Int} (s : Sign) {e : BitVec 11} (m : BitVec 52)
    (he : e.toNat < 2047) (hle : (e.toNat : Int) - 1075 ≤ b) (hlow : -1074 ≤ b) :
    Below b (unpack binary64 (packComponents binary64 s e m)) := by
  have hexp : unpackExponent (packComponents binary64 s e m) = e := unpackExponent_packComponents
  exact unpack_below (by rw [hexp]; exact he) (by rw [hexp]; exact hle) hlow

/-- A number that is not too large is kept as such. -/
theorem unpack_pack_below {b : Int} {x : UnpackedFloat} (h : Below b x) (hlow : -1074 ≤ b)
    (hhigh : b ≤ 970) : Below b (Float.Model.pack x).unpack := by
  show Below b (unpack binary64 (pack binary64 x))
  cases x with
  | infinity => exact h.elim
  | notANumber => exact h.elim
  | zero s => exact unpack_packComponents_below s _ (by decide) (Int.le_trans (by decide) hlow) hlow
  | finite s m e hm =>
    have he : e ≤ b := h
    have hbias : e + binary64.exponentBias + binary64.mantissaBitsWithoutImplicit = e + 1075 :=
      Int.add_assoc e 1023 52
    unfold pack
    simp only [hbias]
    generalize hk : (e + 1075).toNat = k
    have hmod : (BitVec.ofNat 11 k).toNat ≤ k := Nat.mod_le _ _
    rw [if_neg (show ¬ 2 ^ 11 ≤ k + 1 by omega)]
    split
    next => exact unpack_packComponents_below s _ (by omega) (by omega) hlow
    next =>
      exact unpack_packComponents_below s _ (by decide) (Int.le_trans (by decide) hlow) hlow

/-! ## Words and powers of ten -/

/-- A word is filled up to the digits of a double, if it has fewer. -/
theorem round_word_below (s : Sign) {m : Nat} (hm : m < 2 ^ 64) :
    Below 232 (round binary64 s m 0) := by
  have hshift : (0 - binary64.targetExponent (totalExponent m 0)).toNat ≤ 52 := by
    rw [targetExponent_eq, totalExponent]
    omega
  unfold UnpackedFloat.round decreaseExponent
  dsimp only
  generalize (0 - binary64.targetExponent (totalExponent m 0)).toNat = n at hshift
  have hlt : m <<< n < 2 ^ 116 := by
    rw [Nat.shiftLeft_eq]
    calc m * 2 ^ n ≤ m * 2 ^ 52 := Nat.mul_le_mul_left m (Nat.pow_le_pow_right (by decide) hshift)
      _ < 2 ^ 64 * 2 ^ 52 := Nat.mul_lt_mul_of_pos_right hm (by decide)
      _ = 2 ^ 116 := by decide
  exact roundWithAccuracy_below (k := 116) (b := 0) hlt (by decide) (by omega) (by decide)

theorem toFloat_below (n : UInt64) : Below 232 n.toFloat.toModel.unpack := by
  refine unpack_pack_below ?_ (by decide) (by decide)
  show Below 232 (normalize binary64 (n.toNat : Int) 0 .positive)
  have hn := n.toNat_lt
  unfold UnpackedFloat.normalize
  split
  next => exact round_word_below _ (by omega)
  next => trivial
  next => exact round_word_below _ (by omega)

theorem powerOfTen_below : ∀ n < 35, Below 62 (powerOfTen n).toModel.unpack := by
  decide +kernel

/-- The exponent of a product is that of its factors and what the digits come to. -/
theorem mul_below {b c : Int} {x y : BitVec binary64.numBits} (hx : Below b (unpack binary64 x))
    (hy : Below c (unpack binary64 y)) (hlow : -1074 ≤ b + c) :
    Below (b + c + 212) (mul binary64 (unpack binary64 x) (unpack binary64 y)) := by
  cases hu : unpack binary64 x with
  | infinity | notANumber =>
    rw [hu] at hx
    exact hx.elim
  | zero s =>
    cases hv : unpack binary64 y with
    | infinity | notANumber =>
      rw [hv] at hy
      exact hy.elim
    | zero | finite => trivial
  | finite s m e hm =>
    cases hv : unpack binary64 y with
    | infinity | notANumber =>
      rw [hv] at hy
      exact hy.elim
    | zero => trivial
    | finite t n f hn =>
      rw [hu] at hx
      rw [hv] at hy
      have hprod : m * n < 2 ^ 106 :=
        calc m * n < 2 ^ 53 * 2 ^ 53 :=
              Nat.mul_lt_mul'' (unpack_mantissa_lt hu) (unpack_mantissa_lt hv)
          _ = 2 ^ 106 := by decide
      exact roundWithAccuracy_below (k := 106) hprod (by decide) (Int.add_le_add hx hy) hlow

/-- A word times a small power of ten is no infinity. -/
theorem isInf_toFloat_mul_powerOfTen (n : UInt64) {e : Nat} (he : e < 35) :
    (n.toFloat * powerOfTen e).isInf = false := by
  have hmul := mul_below (toFloat_below n) (powerOfTen_below e he) (by decide)
  exact (unpack_pack_below hmul (by decide) (by decide)).isInf_eq

/-- A significand with a small exponent has a value. -/
theorem scaled?_isSome (n : Nat) {e : Int} (he : e < 35) : (scaled? n e).isSome = true := by
  unfold scaled?
  dsimp only
  split
  next => rfl
  next =>
    rw [if_pos (by omega), isInf_toFloat_mul_powerOfTen _ (by omega)]
    rfl

end EgressWatch.Json
