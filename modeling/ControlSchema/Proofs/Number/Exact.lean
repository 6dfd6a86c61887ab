import ControlSchema.Number.Binary
import Mathlib.Tactic.Ring
import Mathlib.Tactic.NormNum

/-!
# Rounding what needs no rounding

A reading is a significand times a power of two, and rounding a quotient goes
through its logarithm, a scaling and a division. None of that may lose
anything when the quotient is a number of the format already. The logarithm is
exact on such a quotient because its denominator is a power of two; the scaling
then takes the power of the reading away again; and the division has no
remainder. So the magnitude that comes out is the one the reading was made of.

What follows is all that the storage of values needs: a number that is defined
survives being converted to its own format.
-/

namespace ControlSchema.Number

namespace Format

variable {f : Format}

theorem step_pos : 0 < f.step := Nat.two_pow_pos _

theorem signWeight_pos : 0 < f.signWeight :=
  Nat.mul_pos (Nat.two_pow_pos _) step_pos

theorem topExponent_lt : f.topExponent < 2 ^ f.exponentWidth :=
  Nat.sub_lt (Nat.two_pow_pos _) Nat.one_pos

theorem infinity_lt_signWeight : f.infinity < f.signWeight :=
  Nat.mul_lt_mul_of_pos_right topExponent_lt step_pos

end Format

/-! ## Logarithms and divisions without remainder -/

theorem log2_mul_two_pow {m : Nat} (hm : m ≠ 0) (k : Nat) :
    (m * 2 ^ k).log2 = m.log2 + k := by
  have hne : m * 2 ^ k ≠ 0 := Nat.mul_ne_zero hm (Nat.two_pow_pos k).ne'
  rw [Nat.log2_eq_iff hne]
  constructor
  · rw [Nat.pow_add]
    exact Nat.mul_le_mul_right _ (Nat.log2_self_le hm)
  · rw [show m.log2 + k + 1 = (m.log2 + 1) + k by omega, Nat.pow_add]
    exact Nat.mul_lt_mul_of_pos_right Nat.lt_log2_self (Nat.two_pow_pos k)

theorem floorLog_scaleByPower {m : Nat} (hm : m ≠ 0) (p : Int) :
    floorLog (scaleByPower m 1 p).1 (scaleByPower m 1 p).2 = m.log2 + p := by
  have hguess : ((m * 2 ^ p.toNat).log2 : Int) - (2 ^ (-p).toNat : Nat).log2
      = m.log2 + p := by
    rw [log2_mul_two_pow hm, Nat.log2_two_pow]
    omega
  simp only [floorLog, scaleByPower, Nat.one_mul]
  rw [hguess]
  refine if_pos ?_
  have hle : 2 ^ m.log2 ≤ m := Nat.log2_self_le hm
  calc 2 ^ (-p).toNat * 2 ^ (- -(m.log2 + p)).toNat
      = 2 ^ m.log2 * 2 ^ p.toNat * 2 ^ (-(m.log2 + p)).toNat := by
        rw [← Nat.pow_add, ← Nat.pow_add, ← Nat.pow_add]
        congr 1
        omega
    _ ≤ m * 2 ^ p.toNat * 2 ^ (-(m.log2 + p)).toNat :=
        Nat.mul_le_mul_right _ (Nat.mul_le_mul_right _ hle)

theorem divideNearest_mul_self {m k : Nat} (hk : 0 < k) :
    divideNearest (m * k) k = m := by
  unfold divideNearest
  simp only [Nat.mul_mod_left, Nat.mul_div_cancel m hk]
  exact if_pos hk

/-- Scaling by a power and back leaves the significand, written over a power of
two. -/
theorem scaleByPower_neg (m : Nat) (p : Int) :
    ∃ k, 0 < k ∧
      scaleByPower (scaleByPower m 1 p).1 (scaleByPower m 1 p).2 (-p) = (m * k, k) := by
  refine ⟨2 ^ p.toNat * 2 ^ (-p).toNat,
    Nat.mul_pos (Nat.two_pow_pos _) (Nat.two_pow_pos _), ?_⟩
  simp only [scaleByPower, Nat.one_mul, Int.neg_neg, Prod.mk.injEq]
  constructor <;> ring

/-! ## Magnitudes -/

namespace Binary

variable {f : Format}

/-- A significand of the format at a power that the format has is the magnitude
it stands for. The significand has its leading place filled unless the power is
the least one. -/
theorem roundMagnitude_scaleByPower (hf : 0 < f.precision) {m : Nat} {p : Int}
    (hm : m ≠ 0) (hlow : f.leastPower ≤ p) (hhigh : m < 2 * f.step)
    (hlead : f.step ≤ m ∨ p = f.leastPower) :
    roundMagnitude f (scaleByPower m 1 p).1 (scaleByPower m 1 p).2
      = min (m + (p - f.leastPower).toNat * f.step) f.infinity := by
  have hstep : 2 * f.step = 2 ^ f.precision := by
    rw [Format.step, ← Nat.pow_succ']
    congr 1
    omega
  have hpower : max ((m.log2 : Int) + p - ((f.precision : Int) - 1)) f.leastPower = p := by
    have htop : m.log2 < f.precision := (Nat.log2_lt hm).2 (by rwa [hstep] at hhigh)
    rcases hlead with hlead | rfl
    · have : f.precision - 1 ≤ m.log2 := (Nat.le_log2 hm).2 hlead
      omega
    · omega
  have hnum : (scaleByPower m 1 p).1 ≠ 0 :=
    Nat.mul_ne_zero hm (Nat.two_pow_pos _).ne'
  obtain ⟨k, hk, hscale⟩ := scaleByPower_neg m p
  rw [roundMagnitude, if_neg hnum, floorLog_scaleByPower hm]
  simp only [hpower, hscale, divideNearest_mul_self hk]

theorem roundMagnitude_zero (d : Nat) : roundMagnitude f 0 d = 0 := if_pos rfl

theorem roundMagnitude_le_infinity (n d : Nat) : roundMagnitude f n d ≤ f.infinity := by
  unfold roundMagnitude
  split
  · exact Nat.zero_le _
  · exact Nat.min_le_right _ _

/-! ## Words -/

theorem magnitude_lt (x : Binary f) : x.magnitude < f.signWeight :=
  Nat.mod_lt _ Format.signWeight_pos

theorem magnitude_ofMagnitude {b : Bool} {n : Nat} (hn : n < f.signWeight) :
    (ofMagnitude f b n).magnitude = n := by
  simp only [magnitude, ofMagnitude, Nat.mod_eq_of_lt hn]
  cases b
  · simp [Nat.mod_eq_of_lt hn]
  · simp [Nat.mod_eq_of_lt hn]

/-- A word is its sign and its magnitude. -/
theorem ofMagnitude_magnitude (x : Binary f) :
    ofMagnitude f x.negative x.magnitude = x := by
  have hbits := x.bits_lt
  obtain ⟨bits, _⟩ := x
  simp only [ofMagnitude, negative, magnitude, Binary.mk.injEq, decide_eq_true_eq]
  rw [Nat.mod_mod]
  split
  · next h =>
    rw [Nat.mod_eq_sub_mod h, Nat.mod_eq_of_lt (by omega)]
    omega
  · next h => rw [Nat.mod_eq_of_lt (by omega), Nat.zero_add]

theorem ofBits_bits (x : Binary f) : ofBits f x.bits = x := by
  have hsign : (x.bits / f.signWeight % 2 == 1) = x.negative := by
    have hbits := x.bits_lt
    unfold negative
    by_cases h : f.signWeight ≤ x.bits
    · rw [Nat.div_eq_of_lt_le (by omega : 1 * f.signWeight ≤ x.bits) (by omega)]
      simp [h]
    · rw [Nat.div_eq_of_lt (by omega)]
      simp [h]
  conv_rhs => rw [← ofMagnitude_magnitude x]
  rw [ofBits, hsign]
  simp [ofMagnitude, magnitude]

theorem bits_ofBits {n : Nat} (hn : n < 2 * f.signWeight) : (ofBits f n).bits = n := by
  simp only [ofBits, ofMagnitude]
  by_cases h : f.signWeight ≤ n
  · have hmod : n % f.signWeight = n - f.signWeight := by
      rw [Nat.mod_eq_sub_mod h, Nat.mod_eq_of_lt (by omega)]
    rw [Nat.div_eq_of_lt_le (by omega : 1 * f.signWeight ≤ n) (by omega), hmod]
    exact Nat.add_sub_cancel' h
  · have hlt : n < f.signWeight := by omega
    rw [Nat.div_eq_of_lt hlt, Nat.mod_eq_of_lt hlt]
    exact Nat.zero_add n

/-! ## Converting to the own format -/

/-- What a finite word reads as: significand and power as the format allows
them, and the magnitude that they make up. -/
theorem reading_of_isFinite {x : Binary f} (hx : x.isFinite) :
    ∃ m p, x.reading = .finite x.negative m p ∧ f.leastPower ≤ p ∧ m < 2 * f.step ∧
      (f.step ≤ m ∨ p = f.leastPower) ∧
      m + (p - f.leastPower).toNat * f.step = x.magnitude := by
  have hstep : 0 < f.step := Format.step_pos
  have hfrac : x.magnitude % f.step < f.step := Nat.mod_lt _ hstep
  have hsplit : f.step * (x.magnitude / f.step) + x.magnitude % f.step = x.magnitude :=
    Nat.div_add_mod _ _
  have htop : x.magnitude / f.step ≠ f.topExponent := by
    have : x.magnitude / f.step < f.topExponent :=
      (Nat.div_lt_iff_lt_mul hstep).2 (of_decide_eq_true hx)
    omega
  simp only [reading, if_neg htop]
  by_cases hzero : x.magnitude / f.step = 0
  · refine ⟨x.magnitude % f.step, f.leastPower, by rw [if_pos hzero], Int.le_refl _,
      by omega, Or.inr rfl, ?_⟩
    rw [hzero] at hsplit
    simpa using hsplit
  · obtain ⟨e, he⟩ := Nat.exists_eq_succ_of_ne_zero hzero
    refine ⟨f.step + x.magnitude % f.step, f.leastPower + (e : Nat), ?_, by omega,
      by omega, Or.inl (Nat.le_add_right _ _), ?_⟩
    · rw [if_neg hzero, he]
      rfl
    · rw [show f.leastPower + (e : Int) - f.leastPower = (e : Int) by omega, Int.toNat_natCast]
      rw [he, Nat.mul_succ] at hsplit
      rw [Nat.mul_comm e]
      omega

theorem ofReading_reading (hf : 0 < f.precision) {x : Binary f} (hx : x.isFinite) :
    ofReading f x.reading = x := by
  obtain ⟨m, p, hread, hlow, hhigh, hlead, hmag⟩ := reading_of_isFinite hx
  have hfin : x.magnitude < f.infinity := of_decide_eq_true hx
  rw [hread]
  show ofMagnitude f x.negative
    (roundMagnitude f (scaleByPower m 1 p).1 (scaleByPower m 1 p).2) = x
  by_cases hm : m = 0
  · -- a zero significand has the least power, so the magnitude is zero as well
    have hp : p = f.leastPower := by
      rcases hlead with h | h
      · have := f.step_pos
        omega
      · exact h
    have hzero : x.magnitude = 0 := by
      rw [← hmag, hm, hp]
      simp
    rw [show (scaleByPower m 1 p).1 = 0 by simp [scaleByPower, hm], roundMagnitude_zero, ← hzero]
    exact ofMagnitude_magnitude x
  · rw [roundMagnitude_scaleByPower hf hm hlow hhigh hlead, hmag, Nat.min_eq_left (by omega)]
    exact ofMagnitude_magnitude x

theorem reading_of_eq_infinity {x : Binary f} (hx : x.magnitude = f.infinity) :
    x.reading = .infinite x.negative := by
  simp only [reading, hx, Format.infinity, Nat.mul_div_cancel _ Format.step_pos,
    Nat.mul_mod_left, if_true]

theorem reading_of_isUndefined {x : Binary f} (hx : x.isUndefined) :
    ∃ fraction, x.reading = .undefined x.negative fraction ∧ fraction < f.step := by
  have hstep : 0 < f.step := Format.step_pos
  have hlow : f.infinity < x.magnitude := of_decide_eq_true hx
  have hhigh : x.magnitude < f.infinity + f.step := by
    have htop : f.topExponent + 1 = 2 ^ f.exponentWidth :=
      Nat.sub_add_cancel (Nat.two_pow_pos _)
    have hlt : x.magnitude < (f.topExponent + 1) * f.step := by
      rw [htop]
      exact x.magnitude_lt
    rwa [Nat.add_mul, Nat.one_mul] at hlt
  have hdiv : x.magnitude / f.step = f.topExponent :=
    Nat.div_eq_of_lt_le hlow.le (by rwa [Nat.add_mul, Nat.one_mul])
  have hmod : x.magnitude % f.step ≠ 0 := by
    intro hzero
    have := Nat.div_add_mod x.magnitude f.step
    rw [hdiv, hzero, Nat.mul_comm, Nat.add_zero] at this
    exact hlow.ne this
  refine ⟨x.magnitude % f.step, ?_, Nat.mod_lt _ hstep⟩
  simp only [reading, hdiv, if_true, if_neg hmod]

/-- A number that is defined is its own nearest number. -/
theorem convert_self (hf : 0 < f.precision) {x : Binary f} (hx : ¬ x.isUndefined) :
    x.convert f = x := by
  by_cases hfin : x.isFinite
  · obtain ⟨m, p, hread, _⟩ := reading_of_isFinite hfin
    have h := ofReading_reading hf hfin
    rw [hread] at h
    rw [convert, hread]
    exact h
  · have heq : x.magnitude = f.infinity := by
      simp only [isUndefined, isFinite, decide_eq_true_eq] at hx hfin
      omega
    rw [convert, reading_of_eq_infinity heq]
    show ofMagnitude f x.negative f.infinity = x
    rw [← heq]
    exact ofMagnitude_magnitude x

/-- Changing the format makes no number undefined. -/
theorem not_isUndefined_convert {x : Binary f} {g : Format} (hx : ¬ x.isUndefined) :
    ¬ (x.convert g).isUndefined := by
  have hbound : ∀ b n, n ≤ g.infinity → ¬ (ofMagnitude g b n).isUndefined := by
    intro b n hn
    simp only [isUndefined, decide_eq_true_eq,
      magnitude_ofMagnitude (Nat.lt_of_le_of_lt hn Format.infinity_lt_signWeight)]
    omega
  by_cases hfin : x.isFinite
  · obtain ⟨m, p, hread, _⟩ := reading_of_isFinite hfin
    rw [convert, hread]
    exact hbound _ _ (roundMagnitude_le_infinity _ _)
  · have heq : x.magnitude = f.infinity := by
      simp only [isUndefined, isFinite, decide_eq_true_eq] at hx hfin
      omega
    rw [convert, reading_of_eq_infinity heq]
    exact hbound _ _ (Nat.le_refl _)

/-- A word that is not a number stays one, whatever becomes of its fraction. -/
theorem isUndefined_convert_self (hf : 2 ≤ f.precision) {x : Binary f} (hx : x.isUndefined) :
    (x.convert f).isUndefined := by
  obtain ⟨fraction, hread, hlt⟩ := reading_of_isUndefined hx
  have hhalf : 2 * (f.step / 2) = f.step ∧ 0 < f.step / 2 := by
    obtain ⟨k, hk⟩ : ∃ k, f.precision = k + 2 := ⟨f.precision - 2, by omega⟩
    have hstep : f.step = 2 * 2 ^ k := by rw [Format.step, hk, ← Nat.pow_succ']; rfl
    have := Nat.two_pow_pos k
    omega
  have htop : f.infinity + f.step = f.signWeight := by
    have : f.topExponent + 1 = 2 ^ f.exponentWidth := Nat.sub_add_cancel (Nat.two_pow_pos _)
    rw [Format.infinity, Format.signWeight, ← this, Nat.add_mul, Nat.one_mul]
  rw [convert, hread]
  simp only [Nat.mul_div_cancel _ Format.step_pos, isUndefined, decide_eq_true_eq]
  split <;> rw [magnitude_ofMagnitude (by omega)] <;> omega

end Binary

end ControlSchema.Number
