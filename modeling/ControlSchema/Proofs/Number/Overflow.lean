import ControlSchema.Proofs.Number.Digits
import ControlSchema.Proofs.Number.Widening

/-!
# Integers beyond double precision

The last finite number has all places of its significand filled. An integer
above it is still rounded to it as long as it is nearer to it than to the next
power of two; from halfway on there is no number for the integer.
-/

namespace ControlSchema.Number

/-! ## Rounded quotients -/

theorem le_divideNearest {k n d : Nat} (hd : 0 < d) (h : k * d ≤ n) : k ≤ divideNearest n d := by
  have hquotient : k ≤ n / d := (Nat.le_div_iff_mul_le hd).2 h
  unfold divideNearest
  simp only
  split
  · exact hquotient
  · split <;> omega

theorem divideNearest_le {k n d : Nat} (hd : 0 < d) (h : n ≤ k * d) : divideNearest n d ≤ k := by
  have hquotient : n / d ≤ k := Nat.div_le_of_le_mul (by rwa [Nat.mul_comm])
  rcases Nat.lt_or_eq_of_le hquotient with hlt | heq
  · unfold divideNearest
    simp only
    split
    · exact hquotient
    · split <;> omega
  · have hexact : n = k * d := by
      refine Nat.le_antisymm h ?_
      rw [← heq]
      exact Nat.div_mul_le_self n d
    rw [hexact, divideNearest_mul_self hd]

/-- Rounding leads to an even number or beyond from halfway below it. -/
theorem even_le_divideNearest_iff {k n h : Nat} (hh : 0 < h) :
    2 * k + 2 ≤ divideNearest n (2 * h) ↔ (4 * k + 3) * h ≤ n := by
  have hsplit := Nat.div_add_mod n (2 * h)
  have hrest := Nat.mod_lt n (show 0 < 2 * h by omega)
  unfold divideNearest
  simp only
  generalize n / (2 * h) = q at *
  generalize n % (2 * h) = r at *
  have hhalf : (4 * k + 3) * h = 2 * h * (2 * k + 1) + h := by ring
  rcases Nat.lt_trichotomy q (2 * k + 1) with hq | rfl | hq
  · have hbelow : 2 * h * (q + 1) ≤ 2 * h * (2 * k + 1) := Nat.mul_le_mul_left _ hq
    rw [Nat.mul_succ] at hbelow
    refine iff_of_false ?_ (by omega)
    split
    · omega
    · split <;> omega
  · rw [hhalf]
    split
    · omega
    · split <;> omega
  · have habove : 2 * h * (2 * k + 1 + 1) ≤ 2 * h * q := Nat.mul_le_mul_left _ hq
    rw [Nat.mul_succ] at habove
    refine iff_of_true ?_ (by omega)
    split
    · omega
    · split <;> omega

namespace Binary

theorem roundMagnitude_double {m : Nat} (hm : m ≠ 0) :
    roundMagnitude .double m 1
      = min (divideNearest (m * 2 ^ (52 - m.log2)) (2 ^ (m.log2 - 52)) + (m.log2 + 1022) * 2 ^ 52)
        (2047 * 2 ^ 52) := by
  have hlog : floorLog m 1 = m.log2 := by
    have h := floorLog_scaleByPower hm 0
    simpa [scaleByPower] using h
  have hleast : Format.leastPower .double = -1074 := by decide
  have hstep : Format.step .double = 2 ^ 52 := rfl
  have hinfinity : Format.infinity .double = 2047 * 2 ^ 52 := by decide
  have hprecision : Format.precision .double = 53 := rfl
  rw [roundMagnitude, if_neg hm, hlog, hleast, hstep, hinfinity, hprecision]
  have hpower : max ((m.log2 : Int) - ((53 : Nat) - 1)) (-1074) = m.log2 - 52 := by omega
  rw [hpower]
  have hdown : (-((m.log2 : Int) - 52)).toNat = 52 - m.log2 := by omega
  have hup : (- -((m.log2 : Int) - 52)).toNat = m.log2 - 52 := by omega
  have hshift : ((m.log2 : Int) - 52 - -1074).toNat = m.log2 + 1022 := by omega
  simp only [scaleByPower, hdown, hup, hshift, Nat.one_mul]

/-- The significand of an integer has its leading place filled, or is the next power of two. -/
theorem significand_bounds {m : Nat} (hm : m ≠ 0) :
    2 ^ 52 ≤ divideNearest (m * 2 ^ (52 - m.log2)) (2 ^ (m.log2 - 52)) ∧
    divideNearest (m * 2 ^ (52 - m.log2)) (2 ^ (m.log2 - 52)) ≤ 2 ^ 53 := by
  have hd : 0 < 2 ^ (m.log2 - 52) := Nat.two_pow_pos _
  constructor
  · refine le_divideNearest hd ?_
    calc 2 ^ 52 * 2 ^ (m.log2 - 52)
        = 2 ^ m.log2 * 2 ^ (52 - m.log2) := by
          rw [← Nat.pow_add, ← Nat.pow_add]
          congr 1
          omega
      _ ≤ m * 2 ^ (52 - m.log2) := Nat.mul_le_mul_right _ (Nat.log2_self_le hm)
  · refine divideNearest_le hd ?_
    calc m * 2 ^ (52 - m.log2)
        ≤ 2 ^ (m.log2 + 1) * 2 ^ (52 - m.log2) :=
          Nat.mul_le_mul_right _ (Nat.le_of_lt Nat.lt_log2_self)
      _ = 2 ^ 53 * 2 ^ (m.log2 - 52) := by
          rw [← Nat.pow_add, ← Nat.pow_add]
          congr 1
          omega

/-- The magnitude of an integer is finite up to halfway between the last number and the next power
of two. -/
theorem roundMagnitude_double_lt_iff {a : Nat} (ha : a + 53 = 1023) (m : Nat) :
    roundMagnitude .double m 1 < Format.infinity .double ↔ m < 2 ^ (a + 54) - 2 ^ a := by
  have hinfinity : Format.infinity .double = 2047 * 2 ^ 52 := by decide
  have hhalf : 0 < 2 ^ a := Nat.two_pow_pos a
  have htop : 2 ^ (a + 54) = 2 ^ 54 * 2 ^ a := by rw [Nat.pow_add, Nat.mul_comm]
  by_cases hm : m = 0
  · subst hm
    rw [roundMagnitude_zero, hinfinity]
    exact iff_of_true (by decide) (by omega)
  obtain ⟨hlow, hhigh⟩ := significand_bounds hm
  rw [roundMagnitude_double hm, hinfinity]
  rcases Nat.lt_trichotomy m.log2 (a + 53) with hlog | hlog | hlog
  · have hlt : m < 2 ^ (a + 53) := (Nat.log2_lt hm).1 hlog
    have hprevious : 2 ^ (a + 53) = 2 ^ 53 * 2 ^ a := by rw [Nat.pow_add, Nat.mul_comm]
    exact iff_of_true (by omega) (by omega)
  · -- the exponent of the last number: rounding up leads beyond it
    have hround := @even_le_divideNearest_iff (2 ^ 52 - 1) m (2 ^ a) hhalf
    have hdivisor : 2 ^ (a + 53 - 52) = 2 * 2 ^ a := by
      rw [← Nat.pow_succ']
      congr 1
    rw [hlog, hdivisor, Nat.sub_eq_zero_of_le (by omega), Nat.pow_zero, Nat.mul_one]
    generalize divideNearest m (2 * 2 ^ a) = q at *
    omega
  · have hge : 2 ^ (a + 54) ≤ m := (Nat.le_log2 hm).1 hlog
    exact iff_of_false (by omega) (by omega)

/-- There is no number for an integer from halfway between the last number and the next power of
two. -/
theorem ofInt?_double_eq_none_iff (n : Int) :
    ofInt? .double n = none ↔ 2 ^ 1024 - 2 ^ 970 ≤ n.natAbs := by
  have hle := roundMagnitude_le_infinity (f := .double) n.natAbs 1
  have hmagnitude : (ofQuotient .double (n < 0) n.natAbs 1).magnitude
      = roundMagnitude .double n.natAbs 1 :=
    magnitude_ofMagnitude (Nat.lt_of_le_of_lt hle Format.infinity_lt_signWeight)
  have hfinite : (ofQuotient .double (n < 0) n.natAbs 1).isFinite = true
      ↔ n.natAbs < 2 ^ 1024 - 2 ^ 970 := by
    rw [isFinite, hmagnitude, decide_eq_true_iff, roundMagnitude_double_lt_iff (a := 970) rfl]
  rw [ofInt?, ← Nat.not_lt, ← hfinite]
  split
  · next h => exact iff_of_false (Option.some_ne_none _) (not_not.2 h)
  · next h => exact iff_of_true rfl h

end Binary

/-! ## Integer parts -/

/-- No finite number has an integer part that is too long to be written. -/
theorem isWritable_of_truncate? {x : Double} {n : Int} (h : x.truncate? = some n) :
    isWritable n = true := by
  rw [Binary.truncate?] at h
  split at h
  · next negative significand power hreading =>
    have hfinite : x.isFinite = true := Binary.isFinite_of_reading hreading
    obtain ⟨m, p, hread, hlow, hhigh, -, hmagnitude⟩ := Binary.reading_of_isFinite hfinite
    rw [hreading] at hread
    obtain ⟨-, rfl, rfl⟩ := Reading.finite.inj hread
    have hpower : significand * 2 ^ power.toNat < 10 ^ digitLimit := by
      have hmax : x.magnitude < 2047 * 2 ^ 52 := of_decide_eq_true hfinite
      have hhigh : significand < 2 ^ 53 := hhigh
      have hmagnitude : significand + (power - (-1074)).toNat * 2 ^ 52 = x.magnitude := hmagnitude
      have hle : power.toNat ≤ 972 := by omega
      calc significand * 2 ^ power.toNat
          ≤ 2 ^ 53 * 2 ^ power.toNat := Nat.mul_le_mul_right _ (Nat.le_of_lt hhigh)
        _ = 2 ^ (53 + power.toNat) := (Nat.pow_add 2 53 _).symm
        _ ≤ 10 ^ (53 + power.toNat) := Nat.pow_le_pow_left (by decide) _
        _ < 10 ^ digitLimit := Nat.pow_lt_pow_right (by decide)
          (Nat.lt_of_le_of_lt (Nat.add_le_add_left hle 53) (by decide))
    have hquotient : significand * 2 ^ power.toNat / (1 * 2 ^ (-power).toNat) < 10 ^ digitLimit :=
      Nat.lt_of_le_of_lt (Nat.div_le_self _ _) hpower
    simp only [scaleByPower, Option.some.injEq] at h
    rw [isWritable_iff, ← h]
    split
    · rwa [Int.natAbs_neg, Int.natAbs_natCast]
    · rwa [Int.natAbs_natCast]
  · cases h

end ControlSchema.Number
