import RequestDispatch.Journal

/-!
# Sampling Log Lines

Which log lines are kept. In the sampled mode warnings and errors are always kept, and of the
other lines every `interval`-th is, beginning with the first; the interval is the whole part of
the reciprocal of the sampling rate. Lines that are always kept are not counted, and if the rate
is not positive, no line is.
-/

namespace RequestDispatch

/-- Which log lines are kept. -/
inductive SamplingMode where
  /-- All of them. -/
  | all
  /-- Warnings and errors. -/
  | errorOnly
  /-- Warnings and errors, and some of the others. -/
  | sampled
deriving DecidableEq, Repr

/-- The mode that a word names, the case of letters aside. What is no other mode's name is
the mode that keeps everything. -/
def SamplingMode.parse (word : String) : SamplingMode :=
  match String.ofList (word.toList.map Char.toLower) with
  | "error-only" | "error_only" => errorOnly
  | "sampled" => sampled
  | _ => all

/-- Keeps a part of the log lines. -/
structure Sampler where
  /-- Which lines are kept. -/
  mode : SamplingMode
  /-- In the sampled mode, how many less severe lines there are to one that is kept; if it is
  zero, none is. There is no interval if the sampling rate is not positive; then none is kept or
  counted. -/
  interval : Option Nat
  /-- How many less severe lines have been counted. -/
  count : UInt64 := 0
deriving DecidableEq, Repr

namespace Sampler

/-- A sampling rate within its bounds, zero and one. -/
def clampRate (rate : Float) : Float :=
  if rate < 0 then 0 else if 1 < rate then 1 else rate

/-- The interval of a positive sampling rate: the whole part of its reciprocal, at most the
greatest 64-bit word. What is not a number has interval zero. -/
def interval? (rate : Float) : Option Nat :=
  let rate := clampRate rate
  if rate ≤ 0 then none else some (1 / rate).toUInt64.toNat

/-- The sampler of a mode and a rate. -/
def ofRate (mode : SamplingMode) (rate : Float) : Sampler :=
  { mode, interval := interval? rate }

/-- Whether a line of some level is kept, and the sampler for the lines after it. -/
def offer (sampler : Sampler) (level : Level) : Bool × Sampler :=
  match sampler.mode with
  | .all => (true, sampler)
  | .errorOnly => (level.isSevere, sampler)
  | .sampled =>
    if level.isSevere then (true, sampler)
    else
      match sampler.interval with
      | none => (false, sampler)
      | some interval =>
        (interval != 0 && sampler.count.toNat % interval == 0,
          { sampler with count := sampler.count + 1 })

/-- Which of a sequence of lines are kept, by their levels. -/
def offers (sampler : Sampler) : List Level → List Bool
  | [] => []
  | level :: levels =>
    let (kept, next) := sampler.offer level
    kept :: next.offers levels

end Sampler

end RequestDispatch
