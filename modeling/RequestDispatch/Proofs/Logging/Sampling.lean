import Mathlib.Algebra.Order.Floor.Div
import Mathlib.Data.List.Basic
import Mathlib.Data.List.Induction
import RequestDispatch.Logging.Sampling

/-!
# Which Log Lines Sampling Keeps

In the sampled mode a sampler counts the lines that are less severe than warnings, and only these.
Its count is the number of them among the lines so far, as long as the number fits into a word
(`Sampler.Counts.after`). So whether such a line is kept depends on its position among its like
alone, whatever warnings and errors there are in between: the lines at multiples of the interval are
kept (`Sampler.keepsEvery_offers`). Of the first `n`, these are `n` divided by the interval and
rounded up (`Sampler.KeepsEvery.count_take`).

The count is divided by the interval, and the interval can be zero. `Sampler.offer?` decides on a
line by a division that fails for a divisor of zero. It never comes to that, whatever the rate is
(`Sampler.offers?_eq`).
-/

namespace RequestDispatch.Sampler

open Float.Model (UnpackedFloat)

variable {sampler : Sampler} {interval count : Nat} {level : Level} {levels : List Level}

/-! ## Positive rates -/

theorem lt_iff_unpack {a b : Float} : a < b ↔ a.toModel.unpack.lt b.toModel.unpack = true :=
  decide_eq_true_iff

theorem le_iff_unpack {a b : Float} : a ≤ b ↔ a.toModel.unpack.le b.toModel.unpack = true :=
  decide_eq_true_iff

/-- How a number compares with zero is known from its kind and its sign. -/
theorem compare_zero_of_zero_lt {number : UnpackedFloat}
    (hlt : (UnpackedFloat.zero .positive).lt number = true) :
    number.compare (.zero .positive) = some .gt := by
  cases number with
  | infinity sign =>
    cases sign with
    | positive => rfl
    | negative => cases hlt
  | notANumber => cases hlt
  | zero sign => cases hlt
  | finite sign =>
    cases sign with
    | positive => rfl
    | negative => cases hlt

/-- A positive rate has an interval. -/
theorem isSome_interval?_of_pos {rate : Float} (hpos : 0 < rate) :
    (interval? rate).isSome = true := by
  have hzero : (0 : Float).toModel.unpack = .zero .positive := rfl
  rw [lt_iff_unpack, hzero] at hpos
  -- a comparison with zero that comes out as greater rules out the two others
  have hcompare := compare_zero_of_zero_lt hpos
  have hnotLt : ¬ rate < 0 := by
    rw [lt_iff_unpack, hzero, UnpackedFloat.lt, hcompare]
    decide
  have hnotLe : ¬ rate ≤ 0 := by
    rw [le_iff_unpack, hzero, UnpackedFloat.le, hcompare]
    decide
  have hclamped : ¬ clampRate rate ≤ 0 := by
    rw [clampRate, if_neg hnotLt]
    split
    · decide
    · exact hnotLe
  rw [interval?, if_neg hclamped]
  rfl

/-- Rates above the greatest are as the greatest one, what is not a number has the interval zero,
and a negative rate has none. -/
example : interval? 3 = some 1 ∧ interval? (0 / 0) = some 0 ∧ interval? (-1) = none :=
  ⟨rfl, rfl, rfl⟩

/-! ## Decisions one after another -/

/-- The sampler after some lines, known by their levels. -/
def after (sampler : Sampler) (levels : List Level) : Sampler :=
  levels.foldl (fun sampler level => (sampler.offer level).2) sampler

theorem offers_cons (sampler : Sampler) (level : Level) (levels : List Level) :
    sampler.offers (level :: levels) =
      (sampler.offer level).1 :: (sampler.offer level).2.offers levels :=
  rfl

theorem after_concat (sampler : Sampler) (levels : List Level) (level : Level) :
    sampler.after (levels ++ [level]) = ((sampler.after levels).offer level).2 :=
  List.foldl_concat _ _ _ _

/-- The decision on a line is that of the sampler after the lines before it. -/
theorem offers_concat (sampler : Sampler) (levels : List Level) (level : Level) :
    sampler.offers (levels ++ [level]) =
      sampler.offers levels ++ [((sampler.after levels).offer level).1] := by
  induction levels generalizing sampler with
  | nil => rfl
  | cons first levels ih =>
    rw [List.cons_append, offers_cons, ih, offers_cons, List.cons_append]
    rfl

/-! ## Division -/

/-- The remainder of a division, which fails for a divisor of zero. -/
def remainder? (dividend divisor : Nat) : Option Nat :=
  if divisor = 0 then none else some (dividend % divisor)

/-- Whether the interval divides the count and is not zero, decided by a division that can fail. The
remainder is not asked for unless the interval is not zero. -/
def isDue? (interval count : Nat) : Option Bool :=
  andM (some (interval != 0)) ((remainder? count interval).map (· == 0))

/-- Whether a line is kept, and the sampler for the lines after it, decided by a division that can
fail. -/
def offer? (sampler : Sampler) (level : Level) : Option (Bool × Sampler) :=
  match sampler.mode with
  | .all => some (true, sampler)
  | .errorOnly => some (level.isSevere, sampler)
  | .sampled =>
    if level.isSevere then some (true, sampler)
    else
      match sampler.interval with
      | none => some (false, sampler)
      | some interval =>
        (isDue? interval sampler.count.toNat).map fun kept =>
          (kept, { sampler with count := sampler.count + 1 })

/-- Which of a sequence of lines are kept, decided by divisions that can fail. -/
def offers? (sampler : Sampler) : List Level → Option (List Bool)
  | [] => some []
  | level :: levels => do
    let (kept, next) ← sampler.offer? level
    return kept :: (← next.offers? levels)

/-- A division by an interval of zero is not reached. -/
theorem isDue?_eq (interval count : Nat) :
    isDue? interval count = some (interval != 0 && count % interval == 0) := by
  by_cases hzero : interval = 0
  · subst hzero
    rfl
  · rw [isDue?, remainder?, if_neg hzero, bne_iff_ne.mpr hzero]
    rfl

theorem offer?_eq (sampler : Sampler) (level : Level) :
    sampler.offer? level = some (sampler.offer level) := by
  rw [offer?, offer]
  rcases sampler.mode
  · rfl
  · rfl
  · rcases level.isSevere
    · rcases sampler.interval with _ | interval
      · rfl
      · simp [isDue?_eq]
    · rfl

/-- A decision is made on every line. -/
theorem offers?_eq (sampler : Sampler) (levels : List Level) :
    sampler.offers? levels = some (sampler.offers levels) := by
  induction levels generalizing sampler with
  | nil => rfl
  | cons level levels ih =>
    rw [offers?, offer?_eq, offers_cons, Option.bind_eq_bind, Option.bind_some]
    dsimp only
    rw [ih]
    rfl

/-! ## What is counted -/

/-- How many of some lines are less severe than warnings. -/
def countLesser (levels : List Level) : Nat := levels.countP fun level => !level.isSevere

theorem countLesser_of_isSevere (hsevere : level.isSevere = true) : countLesser [level] = 0 := by
  simp [countLesser, hsevere]

theorem countLesser_of_not_isSevere (hsevere : level.isSevere = false) :
    countLesser [level] = 1 := by
  simp [countLesser, hsevere]

/-- A sampler in the sampled mode that has counted some lines. -/
structure Counts (sampler : Sampler) (interval count : Nat) : Prop where
  /-- It keeps a part of the less severe lines. -/
  mode_eq : sampler.mode = .sampled
  /-- The interval. -/
  interval_eq : sampler.interval = some interval
  /-- How many lines it has counted. -/
  count_eq : sampler.count.toNat = count

/-- A sampler has counted no lines in the beginning. -/
theorem counts_ofRate {rate : Float} (hinterval : interval? rate = some interval) :
    (ofRate .sampled rate).Counts interval 0 :=
  ⟨rfl, hinterval, rfl⟩

/-- A severe line is kept and not counted. -/
theorem Counts.offer_of_isSevere (hcounts : sampler.Counts interval count)
    (hsevere : level.isSevere = true) : sampler.offer level = (true, sampler) := by
  rw [offer, hcounts.mode_eq, hsevere]
  rfl

/-- Another line is kept if the count is a multiple of the interval, and is counted. -/
theorem Counts.offer_of_not_isSevere (hcounts : sampler.Counts interval count)
    (hsevere : level.isSevere = false) :
    sampler.offer level =
      (decide (0 < interval ∧ interval ∣ count), { sampler with count := sampler.count + 1 }) := by
  have hmultiple : (interval != 0 && count % interval == 0) =
      decide (0 < interval ∧ interval ∣ count) := by
    rw [Bool.eq_iff_iff]
    simp [Nat.pos_iff_ne_zero, Nat.dvd_iff_mod_eq_zero]
  rw [offer, hcounts.mode_eq, hsevere, hcounts.interval_eq, ← hmultiple, ← hcounts.count_eq]
  rfl

/-- One more line is counted unless it is severe. The count starts again when it has filled a
word. -/
theorem Counts.offer_mod (hcounts : sampler.Counts interval (count % 2 ^ 64)) (level : Level) :
    (sampler.offer level).2.Counts interval ((count + countLesser [level]) % 2 ^ 64) := by
  rcases hsevere : level.isSevere with _ | _
  · rw [hcounts.offer_of_not_isSevere hsevere, countLesser_of_not_isSevere hsevere]
    refine ⟨hcounts.mode_eq, hcounts.interval_eq, ?_⟩
    -- a word's sum is the remainder of the numbers' sum
    show (sampler.count + 1).toNat = _
    rw [UInt64.toNat_add, hcounts.count_eq, UInt64.toNat_one, Nat.mod_add_mod]
  · rw [hcounts.offer_of_isSevere hsevere, countLesser_of_isSevere hsevere]
    exact hcounts

theorem countLesser_concat (levels : List Level) (level : Level) :
    countLesser (levels ++ [level]) = countLesser levels + countLesser [level] :=
  List.countP_append

/-- After any lines, a sampler has counted those of them that are not severe, as far as a word can
tell. -/
theorem Counts.after_mod (hcounts : sampler.Counts interval 0) (levels : List Level) :
    (sampler.after levels).Counts interval (countLesser levels % 2 ^ 64) := by
  induction levels using List.reverseRecOn with
  | nil => exact hcounts
  | append_singleton levels level ih =>
    rw [after_concat, countLesser_concat]
    exact ih.offer_mod level

theorem countLesser_lt (hfits : levels.length < 2 ^ 64) : countLesser levels < 2 ^ 64 :=
  lt_of_le_of_lt List.countP_le_length hfits

/-- After some lines, a sampler has counted those of them that are not severe. -/
theorem Counts.after (hcounts : sampler.Counts interval 0) (hfits : levels.length < 2 ^ 64) :
    (sampler.after levels).Counts interval (countLesser levels) := by
  rw [← Nat.mod_eq_of_lt (countLesser_lt hfits)]
  exact hcounts.after_mod levels

/-! ## What is kept -/

/-- The decisions on those lines that are not severe, in their order. -/
def decisions (levels : List Level) (kept : List Bool) : List Bool :=
  ((levels.zip kept).filter fun entry => !entry.1.isSevere).map (·.2)

theorem decisions_concat {kept : List Bool} (hlength : kept.length = levels.length)
    (level : Level) (decision : Bool) :
    decisions (levels ++ [level]) (kept ++ [decision]) =
      decisions levels kept ++ if level.isSevere then [] else [decision] := by
  rw [decisions, List.zip_append hlength.symm, List.filter_append, List.map_append, decisions]
  rcases hsevere : level.isSevere with _ | _
  · simp [hsevere]
  · simp [hsevere]

theorem length_offers (sampler : Sampler) (levels : List Level) :
    (sampler.offers levels).length = levels.length := by
  induction levels generalizing sampler with
  | nil => rfl
  | cons level levels ih => rw [offers_cons, List.length_cons, ih, List.length_cons]

/-- Every severe line is kept. -/
theorem Counts.kept_of_isSevere (hcounts : sampler.Counts interval 0) (levels : List Level) :
    ∀ entry ∈ levels.zip (sampler.offers levels), entry.1.isSevere = true → entry.2 = true := by
  induction levels using List.reverseRecOn with
  | nil => simp [offers]
  | append_singleton levels level ih =>
    intro entry hmem hsevere
    rw [offers_concat, List.zip_append (length_offers sampler levels).symm,
      List.mem_append] at hmem
    rcases hmem with hmem | hmem
    · exact ih entry hmem hsevere
    · obtain rfl := List.mem_singleton.mp hmem
      rw [(hcounts.after_mod levels).offer_of_isSevere hsevere]

/-- Of the lines that are not severe, those are kept whose position is a multiple of the interval,
as far as a word can tell. -/
theorem Counts.decisions_offers (hcounts : sampler.Counts interval 0) (levels : List Level) :
    decisions levels (sampler.offers levels) =
      (List.range (countLesser levels)).map fun position =>
        decide (0 < interval ∧ interval ∣ position % 2 ^ 64) := by
  induction levels using List.reverseRecOn with
  | nil => rfl
  | append_singleton levels level ih =>
    rw [offers_concat, decisions_concat (length_offers sampler levels), ih, countLesser_concat]
    have hafter := hcounts.after_mod levels
    -- a line that is not severe takes the next position, and a severe one takes none
    rcases hsevere : level.isSevere with _ | _
    · rw [hafter.offer_of_not_isSevere hsevere, countLesser_of_not_isSevere hsevere,
        List.range_succ, List.map_append]
      rfl
    · rw [countLesser_of_isSevere hsevere, Nat.add_zero, if_pos rfl, List.append_nil]

/-- All severe ones of some lines are kept, and of the others those at multiples of an interval. -/
structure KeepsEvery (interval : Nat) (levels : List Level) (kept : List Bool) : Prop where
  /-- There is a decision on each line. -/
  length_eq : kept.length = levels.length
  /-- A severe line is kept. -/
  severe : ∀ entry ∈ levels.zip kept, entry.1.isSevere = true → entry.2 = true
  /-- Another line is kept if its position among its like is a multiple of the interval, and the
  interval is not zero. -/
  lesser : decisions levels kept =
    (List.range (countLesser levels)).map fun position =>
      decide (0 < interval ∧ interval ∣ position)

/-- A sampler that has counted no lines keeps every line at a multiple of its interval. -/
theorem keepsEvery_offers (hcounts : sampler.Counts interval 0) (hfits : levels.length < 2 ^ 64) :
    KeepsEvery interval levels (sampler.offers levels) := by
  refine ⟨length_offers sampler levels, hcounts.kept_of_isSevere levels, ?_⟩
  rw [hcounts.decisions_offers]
  apply List.map_congr_left
  intro position hposition
  -- the count does not start again before the last position
  rw [Nat.mod_eq_of_lt ((List.mem_range.mp hposition).trans (countLesser_lt hfits))]

/-- The multiples of a number that are less than `n` are as many as `n` divided by the number and
rounded up. There is no multiple to keep if the number is zero. -/
theorem count_multiples (interval n : Nat) :
    ((List.range n).map fun position => decide (0 < interval ∧ interval ∣ position)).count true =
      n ⌈/⌉ interval := by
  rw [Nat.ceilDiv_eq_add_pred_div]
  rcases Nat.eq_zero_or_pos interval with rfl | hpos
  · simp [List.count_eq_zero]
  · induction n with
    | zero => simp [Nat.div_eq_of_lt (Nat.sub_lt hpos Nat.one_pos)]
    | succ n ih =>
      -- the quotient grows where a multiple is passed
      have hnext : n + 1 + interval - 1 = (n + interval - 1) + 1 := by omega
      have hsum : n + interval - 1 + 1 = n + interval := by omega
      rw [List.range_succ, List.map_append, List.count_append, ih, hnext, Nat.succ_div, hsum]
      simp [hpos, List.count_singleton]

/-- Of the first `n` lines that are not severe, `n` divided by the interval and rounded up are
kept. -/
theorem KeepsEvery.count_take {kept : List Bool} (hkeeps : KeepsEvery interval levels kept)
    {n : Nat} (hn : n ≤ countLesser levels) :
    ((decisions levels kept).take n).count true = n ⌈/⌉ interval := by
  rw [hkeeps.lesser, ← List.map_take, List.take_range, Nat.min_eq_left hn, count_multiples]

/-- In the sampled mode, decisions are made for every rate, without a division by zero, and a
positive rate has an interval. Whatever the interval of a rate is, of fewer lines than a word can
count, warnings and errors are all kept, and they are not counted; and of the other lines those are
kept whose position among them is a multiple of the interval, which are none if it is zero, and
`n` divided by the interval and rounded up of the first `n`. -/
theorem offers_ofRate (rate : Float) (levels : List Level) :
    (∀ mode, (ofRate mode rate).offers? levels = some ((ofRate mode rate).offers levels)) ∧
    (0 < rate → (interval? rate).isSome = true) ∧
    ∀ interval, interval? rate = some interval → levels.length < 2 ^ 64 →
      KeepsEvery interval levels ((ofRate .sampled rate).offers levels) ∧
      ((ofRate .sampled rate).after levels).count.toNat = countLesser levels ∧
      ∀ n ≤ countLesser levels,
        ((decisions levels ((ofRate .sampled rate).offers levels)).take n).count true =
          n ⌈/⌉ interval := by
  refine ⟨fun mode => offers?_eq _ levels, isSome_interval?_of_pos, ?_⟩
  intro interval hinterval hfits
  have hcounts := counts_ofRate hinterval
  have hkeeps := keepsEvery_offers hcounts hfits
  exact ⟨hkeeps, (hcounts.after hfits).count_eq, fun n hn => hkeeps.count_take hn⟩

/-- At a rate of a quarter, the first and the fifth of the lines that are not severe are kept,
whatever warnings and errors there are in between. -/
theorem offers_ofRate_quarter :
    0 < (0.25 : Float) ∧ (interval? 0.25).isSome = true ∧ interval? 0.25 = some 4 ∧
    KeepsEvery 4 [.info, .warn, .debug, .trace, .error, .info, .info]
      [true, true, false, false, true, false, true] ∧
    ((ofRate .sampled 0.25).after
      [.info, .warn, .debug, .trace, .error, .info, .info]).count.toNat = 5 ∧
    ([true, false, false, false, true].take 5).count true = 5 ⌈/⌉ 4 := by
  have hpos : 0 < (0.25 : Float) := by decide
  have hinterval : interval? 0.25 = some 4 := rfl
  obtain ⟨-, hsome, hall⟩ :=
    offers_ofRate 0.25 [.info, .warn, .debug, .trace, .error, .info, .info]
  obtain ⟨hkeeps, hcount, hmultiples⟩ := hall 4 hinterval (by decide)
  exact ⟨hpos, hsome hpos, hinterval, hkeeps, hcount, hmultiples 5 (by decide)⟩

end RequestDispatch.Sampler
