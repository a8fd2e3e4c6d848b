import Mathlib.Algebra.Order.Ring.Int
import Mathlib.Data.List.Basic
import Mathlib.Data.Rat.Floor

/-! Durations in nanoseconds, their rounding and their text. -/
namespace NutOperator.Data

open List

abbrev Duration := Int

def nanosPerSecond : Duration := 1000000000

def maxDuration : Duration := 2 ^ 63 - 1

def minDuration : Duration := -2 ^ 63

def wrapDuration (sum : Int) : Duration := Int.bmod sum (2 ^ 64)

theorem wrapDuration_add_wrapDuration (first second : Int) :
    wrapDuration (wrapDuration first + second) = wrapDuration (first + second) :=
  Int.bmod_add_bmod

theorem wrapDuration_eq_self {sum : Int} (hlow : minDuration ≤ sum) (hhigh : sum ≤ maxDuration) :
    wrapDuration sum = sum := by
  exact Int.bmod_eq_of_le hlow (Int.lt_of_le_sub_one hhigh)

/-- The time from one moment to another, cut off at the durations there are. -/
def timeSub (time since : Int) : Duration := max minDuration (min maxDuration (time - since))

theorem timeSub_eq_sub {time since : Int} (hafter : since ≤ time)
    (hwithin : time - since ≤ maxDuration) : timeSub time since = time - since := by
  rw [timeSub, min_eq_right hwithin, max_eq_right]
  exact le_trans (by decide) (sub_nonneg.mpr hafter)

theorem timeSub_le_iff {time since : Int} {bound : Duration} (hlow : minDuration ≤ bound)
    (hhigh : bound < maxDuration) : timeSub time since ≤ bound ↔ time - since ≤ bound := by
  rw [timeSub, max_le_iff, min_le_iff, or_iff_right hhigh.not_ge, and_iff_right hlow]

theorem sum_le_foldl_max {durs : List Duration}
    (hone : (durs.filter fun dur => 0 < dur).length ≤ 1) :
    (durs.map fun dur => max dur 0).sum ≤ durs.foldl max 0 := by
  have hgrows : ∀ (durs : List Duration) (start : Duration), start ≤ durs.foldl max start := by
    intro durs
    induction durs with
    | nil => exact fun start => le_refl start
    | cons first rest ih => exact fun start => (le_max_left start first).trans (ih _)
  induction durs with
  | nil => exact le_refl 0
  | cons first rest ih =>
    rw [map_cons, sum_cons, foldl_cons]
    by_cases hfirst : 0 < first
    · have hnone : rest.filter (fun dur => 0 < dur) = [] := by
        simpa [filter_cons, hfirst] using hone
      have hrest : (rest.map fun dur => max dur 0) = rest.map fun _ => 0 := by
        apply map_congr_left
        intro dur hmem
        have hs := filter_eq_nil_iff.mp hnone dur hmem
        exact max_eq_right (by simpa using hs)
      rw [hrest, max_eq_left hfirst.le, max_eq_right hfirst.le]
      simpa using hgrows rest first
    · have hs := not_lt.mp hfirst
      rw [max_eq_right hs, max_eq_left hs, zero_add]
      apply ih
      simpa [filter_cons, hfirst] using hone

private def decimalDigit (value : Nat) : Char := Char.ofNat (48 + value % 10)

def fractionText (value precision : Nat) : String :=
  let digits := (range precision).map fun position =>
    decimalDigit (value / 10 ^ (precision - 1 - position))
  let kept := (digits.reverse.dropWhile (· = '0')).reverse
  if kept = [] then "" else String.ofList ('.' :: kept)

def formatDuration (duration : Duration) : String :=
  let value := duration.natAbs
  let sign := if duration < 0 then "-" else ""
  let scaled := fun (precision : Nat) (unit : String) =>
    s!"{sign}{value / 10 ^ precision}{fractionText value precision}{unit}"
  if value = 0 then "0s"
  else if value < 10 ^ 3 then scaled 0 "ns"
  else if value < 10 ^ 6 then scaled 3 "µs"
  else if value < 10 ^ 9 then scaled 6 "ms"
  else
    let total := value / 10 ^ 9
    let seconds := s!"{total % 60}{fractionText value 9}s"
    let minutes := if 0 < total / 60 then s!"{total / 60 % 60}m" else ""
    let hours := if 0 < total / 3600 then s!"{total / 3600}h" else ""
    sign ++ hours ++ minutes ++ seconds

example : ([0, 1500000, 90 * nanosPerSecond, 3600 * nanosPerSecond + 1] : List Duration).map
      formatDuration =
    ["0s", "1.5ms", "1m30s", "1h0m0.000000001s"] := by decide

/-- A rational rounded to a whole number, ties to even. -/
def roundHalfEven (value : Rat) : Int :=
  let lower := value.floor
  let rest := value - lower
  if rest < 1 / 2 then lower
  else if 1 / 2 < rest then lower + 1
  else if lower % 2 = 0 then lower else lower + 1

def formatHundredths (value : Rat) : String :=
  let hundredths := (roundHalfEven (value * 100)).toNat
  let units := hundredths / 100
  String.ofList (s!"{units}".toList ++
    ['.', decimalDigit (hundredths / 10), decimalDigit hundredths])

def truncate (value : Rat) : Int := value.num.tdiv value.den

variable {value : Rat}

theorem truncate_of_nonneg (h : 0 ≤ value) : truncate value = ⌊value⌋ := by
  rw [truncate, Rat.floor_def', Int.tdiv_eq_ediv_of_nonneg (Rat.num_nonneg.mpr h)]

theorem truncate_neg (value : Rat) : truncate (-value) = -truncate value := by
  rw [truncate, truncate, Rat.num_neg_eq_neg_num, Rat.den_neg_eq_den, Int.neg_tdiv]

theorem truncate_of_nonpos (h : value ≤ 0) : truncate value = ⌈value⌉ := by
  have hfloor := truncate_of_nonneg (neg_nonneg.mpr h)
  rw [truncate_neg, Int.floor_neg] at hfloor
  exact neg_inj.mp hfloor

theorem truncate_le (h : 0 ≤ value) : (truncate value : Rat) ≤ value := by
  rw [truncate_of_nonneg h]
  exact Int.floor_le value

theorem truncate_nonneg (h : 0 ≤ value) : 0 ≤ truncate value := by
  rw [truncate_of_nonneg h]
  exact Int.floor_nonneg.mpr h

theorem truncate_nonpos (h : value ≤ 0) : truncate value ≤ 0 := by
  rw [truncate_of_nonpos h]
  exact Int.ceil_nonpos.mpr h

theorem truncate_mono {left right : Rat} (h : left ≤ right) : truncate left ≤ truncate right := by
  cases le_total 0 left with
  | inl hleft =>
    rw [truncate_of_nonneg hleft, truncate_of_nonneg (hleft.trans h)]
    exact Int.floor_mono h
  | inr hleft =>
    cases le_total 0 right with
    | inl hr => exact (truncate_nonpos hleft).trans (truncate_nonneg hr)
    | inr hr =>
      rw [truncate_of_nonpos hleft, truncate_of_nonpos hr]
      exact Int.ceil_mono h

@[simp] theorem truncate_intCast (value : Int) : truncate (value : Rat) = value := by
  simp [truncate]

end NutOperator.Data
