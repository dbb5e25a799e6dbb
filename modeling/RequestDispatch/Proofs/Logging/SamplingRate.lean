import Mathlib.Algebra.Order.Archimedean.Basic
import Mathlib.Algebra.Order.Floor.Semifield
import Mathlib.Data.Nat.Prime.Basic
import Mathlib.Data.Rat.Floor
import Mathlib.Tactic.Linarith
import Mathlib.Tactic.Positivity
import Mathlib.Tactic.Ring
import RequestDispatch.Proofs.Logging.Sampling

/-!
# What Fraction of the Log Lines Sampling Keeps

A sampling rate is the fraction of the less severe lines that is to be kept. But the rate is turned
into an interval, the whole part of its reciprocal, and one line in each interval is kept. So the
fraction is at least the rate (`rate_mul_le_due`), and it is the rate only if the reciprocal is
whole. Otherwise it is greater, and the surplus grows with every line
(`exists_lt_due_of_not_hasWholeReciprocal`): three quarters have the interval one, and all lines are
kept (`not_keepsFraction_three_quarters`).

Lines are counted in a word, and the count starts again when it has filled the word. For any number
of lines it is known which of them are kept (`Counts.decisions_offers`) and how many
(`Counts.keptLesser_eq`). Where a word holds no multiple of the interval, one line too many is kept
each time that the count starts again (`exists_lt_mul_due`). So the rates that are kept to however
many lines there are have powers of two as their reciprocals (`forall_due_le_iff`).

Rates are rational numbers here, and their reciprocals are exact (`exactInterval`). A sampler that is
made for a floating-point rate is meant as well, if the rate has the same interval.
-/

namespace RequestDispatch.Sampler

variable {sampler : Sampler} {interval : Nat}

/-! ## How many lines are due -/

/-- How many of `n` lines are kept if one in `interval` is, beginning with the first, and the count
starts again when it has filled a word. -/
def due (interval n : Nat) : Nat :=
  n / 2 ^ 64 * (2 ^ 64 ⌈/⌉ interval) + n % 2 ^ 64 ⌈/⌉ interval

theorem count_multiples_mod {size : Nat} (hsize : 0 < size) (interval n : Nat) :
    ((List.range n).map fun position =>
        decide (0 < interval ∧ interval ∣ position % size)).count true =
      n / size * (size ⌈/⌉ interval) + n % size ⌈/⌉ interval := by
  -- up to the size the remainder is the position itself
  have hwithin (m : Nat) (hm : m ≤ size) :
      ((List.range m).map fun position =>
        decide (0 < interval ∧ interval ∣ position % size)).count true = m ⌈/⌉ interval := by
    rw [← count_multiples interval m]
    congr 1
    apply List.map_congr_left
    intro position hposition
    rw [Nat.mod_eq_of_lt (lt_of_lt_of_le (List.mem_range.mp hposition) hm)]
  -- the induction is on how often the count has started again
  induction hwraps : n / size generalizing n with
  | zero =>
    have hlt : n < size := (Nat.div_eq_zero_iff_lt hsize).mp hwraps
    rw [Nat.mod_eq_of_lt hlt, Nat.zero_mul, Nat.zero_add, hwithin n hlt.le]
  | succ wraps ih =>
    obtain ⟨m, rfl⟩ : ∃ m, n = size + m := by
      have hle : size ≤ n := by
        by_contra hlt
        rw [Nat.div_eq_of_lt (by omega)] at hwraps
        cases hwraps
      exact ⟨n - size, by omega⟩
    have hrest : m / size = wraps := by
      rw [Nat.add_div_left m hsize] at hwraps
      exact Nat.add_right_cancel hwraps
    rw [List.range_add, List.map_append, List.count_append, List.map_map, hwithin size le_rfl,
      Nat.add_mod_left, Nat.succ_mul, Nat.add_right_comm, ← ih m hrest, Nat.add_comm]
    simp [Function.comp_def]

/-- How many of the lines that are not severe are kept. -/
def keptLesser (sampler : Sampler) (levels : List Level) : Nat :=
  (decisions levels (sampler.offers levels)).count true

theorem Counts.keptLesser_eq (hcounts : sampler.Counts interval 0) (levels : List Level) :
    sampler.keptLesser levels = due interval (countLesser levels) := by
  rw [keptLesser, hcounts.decisions_offers, count_multiples_mod (by decide), due]

/-- At least one line in `interval` is kept. -/
theorem le_mul_due (hinterval : 0 < interval) (n : Nat) : n ≤ interval * due interval n := by
  have hfull : 2 ^ 64 ≤ interval * (2 ^ 64 ⌈/⌉ interval) := le_smul_ceilDiv hinterval
  have hrest : n % 2 ^ 64 ≤ interval * (n % 2 ^ 64 ⌈/⌉ interval) := le_smul_ceilDiv hinterval
  calc n = n / 2 ^ 64 * 2 ^ 64 + n % 2 ^ 64 := (Nat.div_add_mod' n _).symm
    _ ≤ n / 2 ^ 64 * (interval * (2 ^ 64 ⌈/⌉ interval)) +
        interval * (n % 2 ^ 64 ⌈/⌉ interval) := by gcongr
    _ = interval * due interval n := by rw [due]; ring

/-- Lines are kept as if the count never started again, as long as it does not, and in any case if a
word holds a multiple of the interval. -/
theorem due_eq_ceilDiv {n : Nat} (hinterval : 0 < interval)
    (hn : n ≤ 2 ^ 64 ∨ interval ∣ 2 ^ 64) : due interval n = n ⌈/⌉ interval := by
  rw [due]
  rcases hn with hle | hdvd
  · rcases hle.lt_or_eq with hlt | rfl
    · rw [Nat.div_eq_of_lt hlt, Nat.mod_eq_of_lt hlt, Nat.zero_mul, Nat.zero_add]
    · rw [Nat.div_self (by decide), Nat.mod_self, zero_ceilDiv, Nat.one_mul, Nat.add_zero]
  · obtain ⟨parts, hparts⟩ := hdvd
    rw [hparts, show interval * parts ⌈/⌉ interval = parts from smul_ceilDiv hinterval parts]
    -- whole words add whole parts to what is rounded up
    have hsum : n + interval - 1 = interval * (n / (interval * parts) * parts) +
        (n % (interval * parts) + interval - 1) := by
      have hdivision := Nat.div_add_mod' n (interval * parts)
      rw [← Nat.add_sub_assoc (by omega), ← Nat.add_assoc]
      congr 2
      rw [Nat.mul_left_comm, hdivision]
    rw [Nat.ceilDiv_eq_add_pred_div, Nat.ceilDiv_eq_add_pred_div, hsum,
      Nat.mul_add_div hinterval]

/-- No line is kept before it is due. -/
theorem mul_due_lt {n : Nat} (hinterval : 0 < interval) (hn : n ≤ 2 ^ 64 ∨ interval ∣ 2 ^ 64) :
    interval * due interval n < n + interval := by
  rw [due_eq_ceilDiv hinterval hn, Nat.ceilDiv_eq_add_pred_div]
  have hle := Nat.mul_div_le (n + interval - 1) interval
  omega

/-- If a word holds no multiple of the interval, more lines than are due are kept as the count
starts again. -/
theorem exists_lt_mul_due (hinterval : 0 < interval) (hdvd : ¬ interval ∣ 2 ^ 64) :
    ∃ n, n + interval < interval * due interval n := by
  -- each time that a word is filled, there is one line too many
  refine ⟨(interval + 1) * 2 ^ 64, ?_⟩
  have hlt : 2 ^ 64 < interval * (2 ^ 64 ⌈/⌉ interval) := by
    have hle : 2 ^ 64 ≤ interval * (2 ^ 64 ⌈/⌉ interval) := le_smul_ceilDiv hinterval
    refine lt_of_le_of_ne hle fun heq => hdvd ⟨_, heq⟩
  have hdue : due interval ((interval + 1) * 2 ^ 64) =
      (interval + 1) * (2 ^ 64 ⌈/⌉ interval) := by
    rw [due, Nat.mul_div_cancel _ (by decide), Nat.mul_mod_left, zero_ceilDiv, Nat.add_zero]
  calc (interval + 1) * 2 ^ 64 + interval
      < (interval + 1) * (2 ^ 64 + 1) := by omega
    _ ≤ (interval + 1) * (interval * (2 ^ 64 ⌈/⌉ interval)) := Nat.mul_le_mul_left _ hlt
    _ = interval * due interval ((interval + 1) * 2 ^ 64) := by rw [hdue]; ring

/-! ## Exact rates -/

/-- The interval of a positive rate whose reciprocal is taken exactly: the whole part of the
reciprocal, at most the greatest 64-bit word. -/
def exactInterval (rate : ℚ) : Nat := min ⌊1 / rate⌋₊ (2 ^ 64 - 1)

/-- The reciprocal of a rate is a whole number that fits into a word. -/
def HasWholeReciprocal (rate : ℚ) : Prop := ∃ whole : Nat, whole < 2 ^ 64 ∧ rate * whole = 1

/-- How many of the lines that are not severe are kept differs from a rate's part of them by at most
one. -/
def KeepsFraction (sampler : Sampler) (rate : ℚ) (levels : List Level) : Prop :=
  |(sampler.keptLesser levels : ℚ) - rate * countLesser levels| ≤ 1

variable {rate : ℚ}

theorem exactInterval_pos (hpos : 0 < rate) (hle : rate ≤ 1) : 0 < exactInterval rate := by
  have hone : 1 ≤ ⌊1 / rate⌋₊ := (Nat.one_le_floor_iff _).mpr ((one_le_div hpos).mpr hle)
  rw [exactInterval]
  omega

theorem exactInterval_lt (rate : ℚ) : exactInterval rate < 2 ^ 64 := by
  have hle : exactInterval rate ≤ 2 ^ 64 - 1 := Nat.min_le_right _ _
  omega

theorem rate_mul_exactInterval_le (hpos : 0 < rate) : rate * exactInterval rate ≤ 1 := by
  have hfloor : (⌊1 / rate⌋₊ : ℚ) ≤ 1 / rate := Nat.floor_le (by positivity)
  have hmin : (exactInterval rate : ℚ) ≤ ⌊1 / rate⌋₊ := by
    exact_mod_cast Nat.min_le_left _ _
  calc rate * exactInterval rate ≤ rate * (1 / rate) := by gcongr; exact hmin.trans hfloor
    _ = 1 := mul_one_div_cancel hpos.ne'

/-- The interval is the reciprocal if that is whole. -/
theorem exactInterval_eq_of_mul_eq_one {whole : Nat} (hpos : 0 < rate) (hlt : whole < 2 ^ 64)
    (hone : rate * whole = 1) : exactInterval rate = whole := by
  have hwhole : 1 / rate = whole := by rw [div_eq_iff hpos.ne', mul_comm, hone]
  rw [exactInterval, hwhole, Nat.floor_natCast, Nat.min_eq_left (by omega)]

theorem rate_mul_exactInterval_eq_one_iff (hpos : 0 < rate) :
    rate * exactInterval rate = 1 ↔ HasWholeReciprocal rate := by
  constructor
  · exact fun hone => ⟨exactInterval rate, exactInterval_lt rate, hone⟩
  · rintro ⟨whole, hlt, hone⟩
    rw [exactInterval_eq_of_mul_eq_one hpos hlt hone, hone]

/-! ## The part that is kept -/

/-- Never less than the rate's part is kept. -/
theorem rate_mul_le_due (hpos : 0 < rate) (hle : rate ≤ 1) (n : Nat) :
    rate * n ≤ due (exactInterval rate) n := by
  have hdue : (n : ℚ) ≤ exactInterval rate * due (exactInterval rate) n := by
    exact_mod_cast le_mul_due (exactInterval_pos hpos hle) n
  calc rate * n ≤ rate * (exactInterval rate * due (exactInterval rate) n) := by gcongr
    _ = rate * exactInterval rate * due (exactInterval rate) n := (mul_assoc ..).symm
    _ ≤ 1 * due (exactInterval rate) n := by gcongr; exact rate_mul_exactInterval_le hpos
    _ = due (exactInterval rate) n := one_mul _

/-- If the reciprocal is whole, less than one line more than the rate's part is kept. -/
theorem due_lt_of_hasWholeReciprocal (hpos : 0 < rate) (hle : rate ≤ 1)
    (hwhole : HasWholeReciprocal rate) {n : Nat}
    (hn : n ≤ 2 ^ 64 ∨ exactInterval rate ∣ 2 ^ 64) :
    due (exactInterval rate) n < rate * n + 1 := by
  have hone := (rate_mul_exactInterval_eq_one_iff hpos).mpr hwhole
  have hdue : (exactInterval rate * due (exactInterval rate) n : ℚ) < n + exactInterval rate := by
    exact_mod_cast mul_due_lt (exactInterval_pos hpos hle) hn
  calc (due (exactInterval rate) n : ℚ)
      = rate * (exactInterval rate * due (exactInterval rate) n) := by
        rw [← mul_assoc, hone, one_mul]
    _ < rate * (n + exactInterval rate) := by gcongr
    _ = rate * n + 1 := by rw [mul_add, hone]

/-- If the reciprocal is not whole, what is kept beyond the rate's part grows with the number of
lines. -/
theorem exists_lt_due_of_not_hasWholeReciprocal (hpos : 0 < rate) (hle : rate ≤ 1)
    (hwhole : ¬ HasWholeReciprocal rate) :
    ∃ bound : Nat, ∀ n ≥ bound, rate * n + 1 < due (exactInterval rate) n := by
  have hinterval : (0 : ℚ) < exactInterval rate := by exact_mod_cast exactInterval_pos hpos hle
  -- this is by how much the surplus grows in one interval
  have hlt : 0 < 1 - rate * exactInterval rate := by
    refine sub_pos.mpr (lt_of_le_of_ne (rate_mul_exactInterval_le hpos) ?_)
    exact fun hone => hwhole ((rate_mul_exactInterval_eq_one_iff hpos).mp hone)
  obtain ⟨bound, hbound⟩ := exists_nat_gt (exactInterval rate / (1 - rate * exactInterval rate))
  refine ⟨bound, fun n hn => ?_⟩
  have hgrown : (exactInterval rate : ℚ) < n * (1 - rate * exactInterval rate) := by
    rw [← div_lt_iff₀ hlt]
    exact hbound.trans_le (by exact_mod_cast hn)
  have hdue : (n : ℚ) ≤ exactInterval rate * due (exactInterval rate) n := by
    exact_mod_cast le_mul_due (exactInterval_pos hpos hle) n
  -- the number kept is bounded by its product with the interval
  refine lt_of_mul_lt_mul_left ?_ hinterval.le
  linarith

/-- If the reciprocal is whole but a word holds no multiple of it, lines are kept beyond the rate's
part as the count starts again. -/
theorem exists_lt_due_of_not_dvd (hpos : 0 < rate) (hle : rate ≤ 1)
    (hwhole : HasWholeReciprocal rate) (hdvd : ¬ exactInterval rate ∣ 2 ^ 64) :
    ∃ n : Nat, rate * n + 1 < due (exactInterval rate) n := by
  have hone := (rate_mul_exactInterval_eq_one_iff hpos).mpr hwhole
  obtain ⟨n, hn⟩ := exists_lt_mul_due (exactInterval_pos hpos hle) hdvd
  have hdue : (n + exactInterval rate : ℚ) < exactInterval rate * due (exactInterval rate) n := by
    exact_mod_cast hn
  refine ⟨n, ?_⟩
  calc rate * n + 1 = rate * (n + exactInterval rate) := by rw [mul_add, hone]
    _ < rate * (exactInterval rate * due (exactInterval rate) n) := by gcongr
    _ = due (exactInterval rate) n := by rw [← mul_assoc, hone, one_mul]

/-- The rates whose part is exceeded by at most one line, however many lines there are: those whose
reciprocal is a power of two that fits into a word. -/
theorem forall_due_le_iff (hpos : 0 < rate) (hle : rate ≤ 1) :
    (∀ n : Nat, due (exactInterval rate) n ≤ rate * n + 1) ↔
      ∃ exponent < 64, rate * 2 ^ exponent = 1 := by
  constructor
  · intro hall
    have hwhole : HasWholeReciprocal rate := by
      by_contra hnot
      obtain ⟨bound, hbound⟩ := exists_lt_due_of_not_hasWholeReciprocal hpos hle hnot
      exact absurd (hall bound) (not_le.mpr (hbound bound le_rfl))
    have hdvd : exactInterval rate ∣ 2 ^ 64 := by
      by_contra hnot
      obtain ⟨n, hn⟩ := exists_lt_due_of_not_dvd hpos hle hwhole hnot
      exact absurd (hall n) (not_le.mpr hn)
    -- what divides a power of two is a power of two
    obtain ⟨exponent, -, hpower⟩ := (Nat.dvd_prime_pow Nat.prime_two).mp hdvd
    refine ⟨exponent, ?_, ?_⟩
    · rw [← Nat.pow_lt_pow_iff_right (by decide : 1 < 2), ← hpower]
      exact exactInterval_lt rate
    · have hone := (rate_mul_exactInterval_eq_one_iff hpos).mpr hwhole
      rw [hpower] at hone
      exact_mod_cast hone
  · rintro ⟨exponent, hexponent, hone⟩ n
    have hlt : 2 ^ exponent < 2 ^ 64 := Nat.pow_lt_pow_right (by decide) hexponent
    have hcast : rate * (2 ^ exponent : Nat) = 1 := by exact_mod_cast hone
    have hdvd : exactInterval rate ∣ 2 ^ 64 := by
      rw [exactInterval_eq_of_mul_eq_one hpos hlt hcast]
      exact Nat.pow_dvd_pow 2 hexponent.le
    exact (due_lt_of_hasWholeReciprocal hpos hle ⟨_, hlt, hcast⟩ (.inr hdvd)).le

/-- No less than the rate's part is kept, so only a surplus is to be bounded. -/
theorem Counts.keepsFraction_iff (hcounts : sampler.Counts (exactInterval rate) 0)
    (hpos : 0 < rate) (hle : rate ≤ 1) (levels : List Level) :
    sampler.KeepsFraction rate levels ↔
      (due (exactInterval rate) (countLesser levels) : ℚ) ≤ rate * countLesser levels + 1 := by
  have hleast := rate_mul_le_due hpos hle (countLesser levels)
  rw [KeepsFraction, hcounts.keptLesser_eq, abs_of_nonneg (sub_nonneg.mpr hleast),
    sub_le_iff_le_add']

theorem countLesser_replicate_info (n : Nat) : countLesser (List.replicate n .info) = n := by
  rw [countLesser, List.countP_replicate]
  rfl

/-- A positive rate of at most one is given, and a sampler in the sampled mode whose interval is the
whole part of the rate's exact reciprocal. Then the rate's part of the lines that are not severe is
always kept, whatever warnings and errors there are in between. As long as the count does not start
again, at most one line more is kept if the reciprocal is whole. If it is not whole, then more are
kept from some number of lines on. For any number of lines the rate is kept to if its reciprocal is
a power of two in a word, and for no other rate. -/
theorem keptLesser_of_exactInterval (hpos : 0 < rate) (hle : rate ≤ 1)
    (hcounts : sampler.Counts (exactInterval rate) 0) :
    (∀ levels, sampler.keptLesser levels = due (exactInterval rate) (countLesser levels) ∧
      rate * countLesser levels ≤ sampler.keptLesser levels) ∧
    (HasWholeReciprocal rate → ∀ levels, countLesser levels ≤ 2 ^ 64 →
      sampler.KeepsFraction rate levels) ∧
    (¬ HasWholeReciprocal rate → ∃ bound, ∀ levels, bound ≤ countLesser levels →
      ¬ sampler.KeepsFraction rate levels) ∧
    ((∀ levels, sampler.KeepsFraction rate levels) ↔
      ∃ exponent < 64, rate * 2 ^ exponent = 1) := by
  refine ⟨fun levels => ⟨hcounts.keptLesser_eq levels, ?_⟩, fun hwhole levels hn => ?_,
    fun hwhole => ?_, ?_⟩
  · rw [hcounts.keptLesser_eq]
    exact rate_mul_le_due hpos hle _
  · rw [hcounts.keepsFraction_iff hpos hle]
    exact (due_lt_of_hasWholeReciprocal hpos hle hwhole (.inl hn)).le
  · obtain ⟨bound, hbound⟩ := exists_lt_due_of_not_hasWholeReciprocal hpos hle hwhole
    refine ⟨bound, fun levels hn => ?_⟩
    rw [hcounts.keepsFraction_iff hpos hle, not_le]
    exact hbound _ hn
  · simp only [hcounts.keepsFraction_iff hpos hle]
    rw [← forall_due_le_iff hpos hle]
    -- any number is that of some lines
    refine ⟨fun hall n => ?_, fun hall levels => hall _⟩
    simpa only [countLesser_replicate_info] using hall (List.replicate n .info)

/-- A tenth of the lines is kept. The floating-point number nearest to a tenth has the interval
ten. -/
theorem keptLesser_of_exactInterval_tenth :
    (0 : ℚ) < 1 / 10 ∧ (1 / 10 : ℚ) ≤ 1 ∧
    (ofRate .sampled 0.1).Counts (exactInterval (1 / 10)) 0 ∧ HasWholeReciprocal (1 / 10) ∧
    ∀ levels, countLesser levels ≤ 2 ^ 64 →
      (ofRate .sampled 0.1).KeepsFraction (1 / 10) levels := by
  have hinterval : exactInterval (1 / 10) = 10 := by norm_num [exactInterval]
  have hcounts : (ofRate .sampled 0.1).Counts (exactInterval (1 / 10)) 0 :=
    counts_ofRate (hinterval ▸ rfl)
  have hwhole : HasWholeReciprocal (1 / 10) := ⟨10, by norm_num, by norm_num⟩
  obtain ⟨-, hkeeps, -, -⟩ :=
    keptLesser_of_exactInterval (by norm_num : (0 : ℚ) < 1 / 10) (by norm_num) hcounts
  exact ⟨by norm_num, by norm_num, hcounts, hwhole, hkeeps hwhole⟩

/-- The rate of three quarters has the interval one, so that all of eight lines are kept and not
about six. -/
theorem not_keepsFraction_three_quarters :
    ¬ ∀ (rate : Float) (exact : ℚ) (levels : List Level), 0 < exact → exact ≤ 1 →
      interval? rate = some (exactInterval exact) →
      (ofRate .sampled rate).KeepsFraction exact levels := by
  intro hkeeps
  have hinterval : exactInterval (3 / 4) = 1 := by norm_num [exactInterval]
  have hsome : interval? 0.75 = some (exactInterval (3 / 4)) := hinterval ▸ rfl
  have height := hkeeps 0.75 (3 / 4) (List.replicate 8 .info) (by norm_num) (by norm_num) hsome
  have hkept : (ofRate .sampled 0.75).keptLesser (List.replicate 8 .info) = 8 := by
    decide +kernel
  rw [KeepsFraction, hkept, countLesser_replicate_info] at height
  -- eight and six differ by two
  norm_num at height

end RequestDispatch.Sampler
