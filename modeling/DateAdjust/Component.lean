import DateAdjust.Bounded
import DateAdjust.Gregorian.Basic

/-! Years, months and days of the years 1 to 9999. A day by itself is any day that some month has;
`Day.checkIn` holds it against the month it stands in. -/

namespace DateAdjust

abbrev Year := Bounded 1 9999

abbrev Month := Bounded 1 12

abbrev Day := Bounded 1 31

namespace Year

def first : Year := ⟨1, by decide, by decide⟩

def last : Year := ⟨9999, by decide, by decide⟩

def check (value : Int) : Except FieldError Year :=
  Bounded.check .year value

theorem check_of_mem (value : Int) (lower : 1 ≤ value) (upper : value ≤ 9999) :
    ∃ year, check value = .ok year ∧ (year.val : Int) = value :=
  Bounded.check_of_mem .year value lower upper

end Year

namespace Month

def january : Month := ⟨1, by decide, by decide⟩

def february : Month := ⟨2, by decide, by decide⟩

def december : Month := ⟨12, by decide, by decide⟩

def check (value : Int) : Except FieldError Month :=
  Bounded.check .month value

theorem check_of_mem (value : Int) (lower : 1 ≤ value) (upper : value ≤ 12) :
    ∃ month, check value = .ok month ∧ (month.val : Int) = value :=
  Bounded.check_of_mem .month value lower upper

theorem check_of_not_mem (value : Int) (outside : ¬(1 ≤ value ∧ value ≤ 12)) :
    check value = .error { field := .month, value, min := 1, max := 12 } :=
  Bounded.check_of_not_mem .month value outside

end Month

namespace Day

def first : Day := ⟨1, by decide, by decide⟩

def lastOf (year : Int) (month : Month) : Day :=
  ⟨monthLength year month.val,
    Nat.le_trans (by decide) (monthLength_ge year month.val month.least_le month.le_greatest),
    monthLength_le year month.val⟩

def check (value : Int) : Except FieldError Day :=
  Bounded.check .day value

def checkIn (year : Int) (month : Month) (value : Int) : Except FieldError Day :=
  let length := Day.lastOf year month
  if inside : 1 ≤ value ∧ value ≤ length.val then
    .ok ⟨value.toNat, by omega, by have := length.le_greatest; omega⟩
  else
    .error { field := .day, value, min := 1, max := length.val }

theorem checkIn_of_mem (year : Int) (month : Month) (value : Int) (lower : 1 ≤ value)
    (upper : value ≤ (lastOf year month).val) :
    ∃ day : Day, checkIn year month value = .ok day ∧ (day.val : Int) = value := by
  refine ⟨_, dif_pos ⟨lower, upper⟩, ?_⟩
  exact Int.toNat_of_nonneg (by omega)

theorem checkIn_of_not_mem (year : Int) (month : Month) (value : Int)
    (outside : ¬(1 ≤ value ∧ value ≤ (lastOf year month).val)) :
    checkIn year month value =
      .error { field := .day, value, min := 1, max := (lastOf year month).val } :=
  dif_neg outside

theorem checkIn_eq_ok_iff {year : Int} {month : Month} {value : Int} {day : Day} :
    checkIn year month value = .ok day ↔
      (day.val : Int) = value ∧ day.val ≤ (lastOf year month).val := by
  by_cases inside : 1 ≤ value ∧ value ≤ (lastOf year month).val
  · obtain ⟨found, checked, same⟩ := checkIn_of_mem year month value inside.1 inside.2
    rw [checked]
    constructor
    · intro equal
      cases equal
      exact ⟨same, by omega⟩
    · rintro ⟨equal, _⟩
      exact congrArg _ (Bounded.ext (Int.ofNat.inj (same.trans equal.symm)))
  · rw [checkIn_of_not_mem year month value inside]
    constructor
    · intro equal
      cases equal
    · rintro ⟨rfl, upper⟩
      exact absurd ⟨Int.ofNat_le.mpr day.least_le, Int.ofNat_le.mpr upper⟩ inside

def checkInMonth (year month value : Int) : Except FieldError Day := do
  let month ← Month.check month
  checkIn year month value

/-- The day itself, or the last day of a month too short for it. -/
def clamp (day : Day) (year : Int) (month : Month) : Day :=
  if day.val ≤ (lastOf year month).val then day else lastOf year month

theorem clamp_val (day : Day) (year : Int) (month : Month) :
    (day.clamp year month).val = min day.val (monthLength year month.val) := by
  unfold clamp
  split
  next fits => exact (Nat.min_eq_left fits).symm
  next long => exact (Nat.min_eq_right (Nat.le_of_not_le long)).symm

end Day

end DateAdjust
