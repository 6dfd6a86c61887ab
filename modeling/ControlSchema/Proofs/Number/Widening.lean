import ControlSchema.Proofs.Number.Exact

/-!
# Numbers in a wider format

A wider format holds every number of a narrower one. Its significands have room
for more digits and its powers reach further both ways, so rounding to it only
fills a significand up with zeros. Rounding back sees the same quotient written
with larger terms, and rounding depends on the value of a quotient and not on
how it is written.

A value hands out its elements in double precision and takes them back in
single precision. That this loses nothing is the last theorem.

Nor is anything rounded of a number that is an integer, so it is the number
nearest to that integer. Zero is the exception: there are two words for it, and
the one nearest to the integer has a clear sign.
-/

namespace ControlSchema.Number

/-- Common factors of both terms do not matter. -/
theorem divideNearest_mul_mul {c : Nat} (hc : 0 < c) (n d : Nat) :
    divideNearest (n * c) (d * c) = divideNearest n d := by
  have htwice : 2 * (n % d * c) = 2 * (n % d) * c := (Nat.mul_assoc _ _ _).symm
  simp only [divideNearest, Nat.mul_div_mul_right n d hc, Nat.mul_mod_mul_right, htwice,
    Nat.mul_lt_mul_right hc]

namespace Format

/-- Every number of the first format is one of the second: there are at least as
many digits, and with all of them in use the powers still reach as far. -/
structure Within (f g : Format) : Prop where
  precision : f.precision ≤ g.precision
  least : g.leastPower + g.precision ≤ f.leastPower + 1
  top : f.leastPower + f.topExponent + 1 ≤ g.leastPower + g.topExponent

theorem single_within_double : Within single double := by
  refine ⟨by decide, by decide, by decide⟩

end Format

namespace Binary

variable {f g : Format}

/-- A number is rounded alike when its significand is written with more
places. -/
theorem roundMagnitude_shift {m : Nat} (hm : m ≠ 0) (k : Nat) (p : Int) :
    roundMagnitude f (scaleByPower (m * 2 ^ k) 1 (p - k)).1 (scaleByPower (m * 2 ^ k) 1 (p - k)).2
      = roundMagnitude f (scaleByPower m 1 p).1 (scaleByPower m 1 p).2 := by
  have hm' : m * 2 ^ k ≠ 0 := Nat.mul_ne_zero hm (Nat.two_pow_pos k).ne'
  have hnum : (scaleByPower m 1 p).1 ≠ 0 := Nat.mul_ne_zero hm (Nat.two_pow_pos _).ne'
  have hnum' : (scaleByPower (m * 2 ^ k) 1 (p - k)).1 ≠ 0 :=
    Nat.mul_ne_zero hm' (Nat.two_pow_pos _).ne'
  have hlog : ((m * 2 ^ k).log2 : Int) + (p - k) = m.log2 + p := by
    rw [log2_mul_two_pow hm]
    omega
  rw [roundMagnitude, roundMagnitude, if_neg hnum, if_neg hnum', floorLog_scaleByPower hm,
    floorLog_scaleByPower hm', hlog]
  generalize max ((m.log2 : Int) + p - ((f.precision : Int) - 1)) f.leastPower = q
  -- the terms of the longer quotient have one more power of two in common
  obtain ⟨j, hj, hj'⟩ : ∃ j, k + (p - k).toNat = p.toNat + j ∧
      (-(p - k)).toNat = (-p).toNat + j := ⟨k + (p - k).toNat - p.toNat, by omega, by omega⟩
  have hfirst : m * 2 ^ k * 2 ^ (p - k).toNat * 2 ^ (-q).toNat
      = m * 2 ^ p.toNat * 2 ^ (-q).toNat * 2 ^ j := by
    rw [Nat.mul_assoc m, ← Nat.pow_add, hj, Nat.pow_add]
    ring
  have hsecond : 1 * 2 ^ (-(p - k)).toNat * 2 ^ (- -q).toNat
      = 1 * 2 ^ (-p).toNat * 2 ^ (- -q).toNat * 2 ^ j := by
    rw [hj', Nat.pow_add]
    ring
  simp only [scaleByPower]
  rw [hfirst, hsecond, divideNearest_mul_mul (Nat.two_pow_pos j)]

/-- The significand and the power that a magnitude is made of are unique when the
leading place is filled. -/
theorem significand_unique {m m' q q' step : Nat} (hlow : step ≤ m) (hhigh : m < 2 * step)
    (hhigh' : m' < 2 * step) (hlead : step ≤ m' ∨ q' = 0)
    (h : m' + q' * step = m + q * step) : m' = m ∧ q' = q := by
  have hstep : 0 < step := by omega
  have hsplit : (m - step) + (q + 1) * step = m + q * step := by
    rw [Nat.add_mul, Nat.one_mul]
    omega
  rcases hlead with hlead | rfl
  · have hsplit' : (m' - step) + (q' + 1) * step = m' + q' * step := by
      rw [Nat.add_mul, Nat.one_mul]
      omega
    have hq : q' + 1 = q + 1 := by
      have hdiv := congrArg (· / step) (hsplit'.trans (h.trans hsplit.symm))
      simp only [Nat.add_mul_div_right _ _ hstep] at hdiv
      rwa [Nat.div_eq_of_lt (by omega), Nat.div_eq_of_lt (by omega), Nat.zero_add,
        Nat.zero_add] at hdiv
    obtain rfl : q' = q := by omega
    exact ⟨by omega, rfl⟩
  · have hq : q = 0 := by
      by_contra hq
      have : 1 * step ≤ q * step := Nat.mul_le_mul_right step (by omega)
      omega
    subst hq
    exact ⟨by omega, rfl⟩

/-- A number of the narrower format, with its significand filled up. -/
theorem exists_filled (hfg : f.Within g) (hf : 0 < f.precision) {m : Nat} {p : Int} (hm : m ≠ 0)
    (hhigh : m < 2 * f.step) (hlow : f.leastPower ≤ p) :
    ∃ k : Nat, g.step ≤ m * 2 ^ k ∧ m * 2 ^ k < 2 * g.step ∧ g.leastPower ≤ p - k := by
  have hprecision := hfg.precision
  have hleast := hfg.least
  have hstep {h : Format} (hh : 0 < h.precision) : 2 * h.step = 2 ^ h.precision := by
    rw [Format.step, ← Nat.pow_succ']
    congr 1
    omega
  have hlog : m.log2 < f.precision := (Nat.log2_lt hm).2 (by rwa [hstep hf] at hhigh)
  refine ⟨g.precision - 1 - m.log2, ?_, ?_, by omega⟩
  · calc g.step = 2 ^ m.log2 * 2 ^ (g.precision - 1 - m.log2) := by
          rw [Format.step, ← Nat.pow_add]
          congr 1
          omega
      _ ≤ m * 2 ^ (g.precision - 1 - m.log2) :=
          Nat.mul_le_mul_right _ (Nat.log2_self_le hm)
  · calc m * 2 ^ (g.precision - 1 - m.log2)
        < 2 ^ (m.log2 + 1) * 2 ^ (g.precision - 1 - m.log2) :=
          Nat.mul_lt_mul_of_pos_right Nat.lt_log2_self (Nat.two_pow_pos _)
      _ = 2 * g.step := by
          rw [hstep (by omega), ← Nat.pow_add]
          congr 1
          omega

theorem negative_ofMagnitude (f : Format) (b : Bool) (n : Nat) :
    (ofMagnitude f b n).negative = b := by
  have hlt : n % f.signWeight < f.signWeight := Nat.mod_lt _ Format.signWeight_pos
  cases b
  · simp only [negative, ofMagnitude, Bool.false_eq_true, if_false, decide_eq_false_iff_not]
    omega
  · simp only [negative, ofMagnitude, if_true, decide_eq_true_eq]
    omega

/-- The word of a filled significand reads as that significand. -/
theorem reading_ofMagnitude_filled {m q : Nat} (b : Bool) (hlow : f.step ≤ m)
    (hhigh : m < 2 * f.step) (hfinite : m + q * f.step < f.infinity) :
    (ofMagnitude f b (m + q * f.step)).reading = .finite b m (f.leastPower + q) := by
  have hmag := magnitude_ofMagnitude (f := f) (b := b)
    (Nat.lt_trans hfinite Format.infinity_lt_signWeight)
  have hfin : (ofMagnitude f b (m + q * f.step)).isFinite := by
    rw [isFinite, hmag]
    exact decide_eq_true hfinite
  obtain ⟨m', p', hread, hlow', hhigh', hlead, hsum⟩ := reading_of_isFinite hfin
  rw [hmag] at hsum
  have hlead' : f.step ≤ m' ∨ (p' - f.leastPower).toNat = 0 := by
    rcases hlead with h | rfl
    · exact Or.inl h
    · exact Or.inr (by omega)
  obtain ⟨rfl, hq⟩ := significand_unique hlow hhigh hhigh' hlead' hsum
  obtain rfl : p' = f.leastPower + q := by omega
  rw [hread, negative_ofMagnitude]

theorem reading_ofMagnitude_zero (hf : 0 < f.infinity) (b : Bool) :
    (ofMagnitude f b 0).reading = .finite b 0 f.leastPower := by
  have hmag := magnitude_ofMagnitude (f := f) (b := b) Format.signWeight_pos
  have htop : 0 ≠ f.topExponent := by
    rintro h
    rw [Format.infinity, ← h, Nat.zero_mul] at hf
    exact Nat.lt_irrefl 0 hf
  rw [reading, hmag, Nat.zero_mod, Nat.zero_div, if_neg htop, if_pos rfl, negative_ofMagnitude]

theorem convert_of_finite {x : Binary f} {b : Bool} {m : Nat} {p : Int} (g : Format)
    (h : x.reading = .finite b m p) : x.convert g
      = ofMagnitude g b (roundMagnitude g (scaleByPower m 1 p).1 (scaleByPower m 1 p).2) := by
  rw [convert, h]
  rfl

theorem convert_of_infinite {x : Binary f} {b : Bool} (g : Format)
    (h : x.reading = .infinite b) : x.convert g = ofMagnitude g b g.infinity := by
  rw [convert, h]
  rfl

/-- A defined number survives being converted to a wider format and back. -/
theorem convert_convert (hfg : f.Within g) (hf : 0 < f.precision) {x : Binary f}
    (hx : ¬ x.isUndefined) : (x.convert g).convert f = x := by
  by_cases hfin : x.isFinite
  case neg =>
    have heq : x.magnitude = f.infinity := by
      simp only [isUndefined, isFinite, decide_eq_true_eq] at hx hfin
      omega
    have hread : (ofMagnitude g x.negative g.infinity).reading = .infinite x.negative := by
      rw [reading_of_eq_infinity (magnitude_ofMagnitude Format.infinity_lt_signWeight),
        negative_ofMagnitude]
    rw [convert_of_infinite g (reading_of_eq_infinity heq), convert_of_infinite f hread, ← heq]
    exact ofMagnitude_magnitude x
  obtain ⟨m, p, hread, hlow, hhigh, -, hmag⟩ := reading_of_isFinite hfin
  have hlt : x.magnitude < f.infinity := of_decide_eq_true hfin
  have hback : x = ofMagnitude f x.negative
      (roundMagnitude f (scaleByPower m 1 p).1 (scaleByPower m 1 p).2) := by
    have hself := ofReading_reading hf hfin
    rw [hread] at hself
    exact hself.symm
  have hexponent : (p - f.leastPower).toNat < f.topExponent := by
    refine Nat.lt_of_mul_lt_mul_right (a := f.step) ?_
    rw [Format.infinity] at hlt
    omega
  have hleast := hfg.least
  have htop := hfg.top
  rw [convert_of_finite g hread]
  by_cases hm : m = 0
  · -- zeros of both formats have magnitude zero
    have hzero (h : Format) (p : Int) :
        roundMagnitude h (scaleByPower m 1 p).1 (scaleByPower m 1 p).2 = 0 := by
      rw [show (scaleByPower m 1 p).1 = 0 by simp [scaleByPower, hm]]
      exact roundMagnitude_zero _
    have hinfinity : 0 < g.infinity := Nat.mul_pos (by omega) Format.step_pos
    rw [hzero, convert_of_finite f (reading_ofMagnitude_zero hinfinity _), ← hm, hzero]
    rw [hzero] at hback
    exact hback.symm
  · obtain ⟨k, hfill, hroom, hpower⟩ := exists_filled hfg hf hm hhigh hlow
    obtain ⟨q, hq⟩ : ∃ q : Nat, p - k = g.leastPower + q :=
      ⟨(p - k - g.leastPower).toNat, by omega⟩
    have hfinite : m * 2 ^ k + q * g.step < g.infinity := by
      have hle : (q + 2) * g.step ≤ g.topExponent * g.step :=
        Nat.mul_le_mul_right _ (by omega)
      rw [Nat.add_mul] at hle
      rw [Format.infinity]
      omega
    have hround : roundMagnitude g (scaleByPower m 1 p).1 (scaleByPower m 1 p).2
        = m * 2 ^ k + q * g.step := by
      have hround := roundMagnitude_scaleByPower (Nat.lt_of_lt_of_le hf hfg.precision)
        (Nat.mul_ne_zero hm (Nat.two_pow_pos k).ne') hpower hroom (Or.inl hfill)
      rw [roundMagnitude_shift hm, hq, show g.leastPower + (q : Int) - g.leastPower = q by omega,
        Int.toNat_natCast, Nat.min_eq_left hfinite.le] at hround
      exact hround
    rw [hround, convert_of_finite f (reading_ofMagnitude_filled _ hfill hroom hfinite), ← hq,
      roundMagnitude_shift hm]
    exact hback.symm

/-! ## Integers -/

theorem isFinite_of_reading {x : Binary f} {b : Bool} {m : Nat} {p : Int}
    (h : x.reading = .finite b m p) : x.isFinite = true := by
  by_contra hx
  by_cases hundefined : x.isUndefined = true
  · obtain ⟨fraction, hread, -⟩ := reading_of_isUndefined hundefined
    rw [h] at hread
    cases hread
  · have heq : x.magnitude = f.infinity := by
      simp only [isUndefined, isFinite, decide_eq_true_eq] at hundefined hx
      omega
    rw [reading_of_eq_infinity heq] at h
    cases h

/-- A whole quotient of a significand and a power is rounded as the integer that
it is. -/
theorem roundMagnitude_of_whole {m : Nat} {p : Int} (hm : m ≠ 0)
    (h : (scaleByPower m 1 p).1 % (scaleByPower m 1 p).2 = 0) :
    roundMagnitude f (scaleByPower m 1 p).1 (scaleByPower m 1 p).2
      = roundMagnitude f ((scaleByPower m 1 p).1 / (scaleByPower m 1 p).2) 1 := by
  rcases Int.le_total 0 p with hp | hp
  · have hone : (scaleByPower m 1 p).2 = 1 := by
      have hzero : (-p).toNat = 0 := by omega
      simp [scaleByPower, hzero]
    rw [hone, Nat.div_one]
  · -- the significand has the power as a factor
    obtain ⟨k, rfl⟩ : ∃ k : Nat, p = -k := ⟨(-p).toNat, by omega⟩
    have hterms : scaleByPower m 1 (-k) = (m, 2 ^ k) := by
      simp [scaleByPower]
    rw [hterms] at h ⊢
    obtain ⟨n, rfl⟩ : 2 ^ k ∣ m := Nat.dvd_of_mod_eq_zero h
    have hn : n ≠ 0 := fun hzero => hm (by rw [hzero, Nat.mul_zero])
    have hshift := roundMagnitude_shift (f := f) hn k 0
    have hlong : scaleByPower (n * 2 ^ k) 1 (0 - k) = (2 ^ k * n, 2 ^ k) := by
      rw [Int.zero_sub, Nat.mul_comm]
      simp [scaleByPower]
    have hshort : scaleByPower n 1 0 = (n, 1) := by simp [scaleByPower]
    rw [hlong, hshort] at hshift
    rw [Nat.mul_div_cancel_left n (Nat.two_pow_pos k)]
    exact hshift

/-- An integer other than zero that the format has is its own nearest number. -/
theorem ofInt?_of_toInt? (hf : 0 < f.precision) {x : Binary f} {n : Int} (hn : n ≠ 0)
    (h : x.toInt? = some n) : ofInt? f n = some x := by
  rw [toInt?] at h
  split at h
  · next b m p hread =>
    simp only at h
    split at h
    · next hwhole =>
      have hfinite := isFinite_of_reading hread
      have hback := ofReading_reading hf hfinite
      rw [hread] at hback
      have hvalue := Option.some.inj h
      generalize hq : (scaleByPower m 1 p).1 / (scaleByPower m 1 p).2 = q at hvalue
      have hq0 : q ≠ 0 := by
        rintro rfl
        exact hn (by rw [← hvalue]; cases b <;> rfl)
      have hm : m ≠ 0 := by
        rintro rfl
        exact hq0 (by rw [← hq]; simp [scaleByPower])
      have hround := roundMagnitude_of_whole (f := f) hm hwhole
      rw [hq] at hround
      have hparts : decide (n < 0) = b ∧ n.natAbs = q := by
        cases b with
        | true =>
          simp only [if_true] at hvalue
          exact ⟨decide_eq_true (by omega), by omega⟩
        | false =>
          simp only [Bool.false_eq_true, if_false] at hvalue
          exact ⟨decide_eq_false (by omega), by omega⟩
      have hnearest : ofQuotient f (decide (n < 0)) n.natAbs 1 = x := by
        rw [hparts.1, hparts.2, ofQuotient, ← hround]
        exact hback
      rw [ofInt?, hnearest]
      exact if_pos hfinite
    · cases h
  · cases h

end Binary

end ControlSchema.Number
