import DateAdjust.Gregorian.Basic
import Mathlib.Logic.Function.Iterate

/-! The calendar by single days and months, from month lengths alone. A numbering that the steps
count up and down finds any number of them at once. -/

namespace DateAdjust

/-- As many steps from a start as a number says, backward if it is negative. -/
def stepBy {State : Type} (forward backward : State → State) (start : State) : Int → State
  | .ofNat count => forward^[count] start
  | .negSucc count => backward^[count + 1] start

theorem stepBy_map {State : Type} {move forward backward : State → State}
    (forwards : Function.Commute move forward) (backwards : Function.Commute move backward)
    (start : State) (amount : Int) :
    stepBy forward backward (move start) amount = move (stepBy forward backward start amount) := by
  cases amount with
  | ofNat count => exact ((forwards.iterate_right count).eq start).symm
  | negSucc count => exact ((backwards.iterate_right (count + 1)).eq start).symm

/-- Steps among the valid states, which a numbering counts up and down. -/
structure Numbered {State : Type} (Valid : State → Prop) (forward backward : State → State)
    (number : State → Int) : Prop where
  valid_forward : ∀ state, Valid state → Valid (forward state)
  valid_backward : ∀ state, Valid state → Valid (backward state)
  number_forward : ∀ state, Valid state → number (forward state) = number state + 1
  number_backward : ∀ state, Valid state → number (backward state) = number state - 1

namespace Numbered

variable {State : Type} {Valid : State → Prop} {forward backward : State → State}
  {number : State → Int}

theorem forward_iterate (numbered : Numbered Valid forward backward number) (start : State)
    (valid : Valid start) (count : Nat) :
    Valid (forward^[count] start) ∧ number (forward^[count] start) = number start + count := by
  induction count with
  | zero => exact ⟨valid, by simp⟩
  | succ count ih =>
      rw [Function.iterate_succ_apply']
      refine ⟨numbered.valid_forward _ ih.1, ?_⟩
      have counted := numbered.number_forward _ ih.1
      omega

theorem backward_iterate (numbered : Numbered Valid forward backward number) (start : State)
    (valid : Valid start) (count : Nat) :
    Valid (backward^[count] start) ∧ number (backward^[count] start) = number start - count := by
  induction count with
  | zero => exact ⟨valid, by simp⟩
  | succ count ih =>
      rw [Function.iterate_succ_apply']
      refine ⟨numbered.valid_backward _ ih.1, ?_⟩
      have counted := numbered.number_backward _ ih.1
      omega

theorem stepBy_valid (numbered : Numbered Valid forward backward number) {start : State}
    (valid : Valid start) (amount : Int) : Valid (stepBy forward backward start amount) := by
  cases amount with
  | ofNat count => exact (numbered.forward_iterate start valid count).1
  | negSucc count => exact (numbered.backward_iterate start valid (count + 1)).1

theorem number_stepBy (numbered : Numbered Valid forward backward number) {start : State}
    (valid : Valid start) (amount : Int) :
    number (stepBy forward backward start amount) = number start + amount := by
  cases amount with
  | ofNat count => exact (numbered.forward_iterate start valid count).2
  | negSucc count =>
      have counted := (numbered.backward_iterate start valid (count + 1)).2
      simp only [stepBy]
      omega

end Numbered

@[ext]
structure CivilMonth where
  year : Int
  month : Nat
  deriving DecidableEq, Repr

namespace CivilMonth

def Valid (month : CivilMonth) : Prop :=
  1 ≤ month.month ∧ month.month ≤ 12

instance (month : CivilMonth) : Decidable month.Valid :=
  inferInstanceAs (Decidable (_ ∧ _))

def length (month : CivilMonth) : Nat :=
  monthLength month.year month.month

def next (month : CivilMonth) : CivilMonth :=
  if month.month < 12 then { month with month := month.month + 1 }
  else { year := month.year + 1, month := 1 }

def previous (month : CivilMonth) : CivilMonth :=
  if 1 < month.month then { month with month := month.month - 1 }
  else { year := month.year - 1, month := 12 }

def away (month : CivilMonth) (amount : Int) : CivilMonth :=
  stepBy next previous month amount

def index (month : CivilMonth) : Int :=
  monthIndex month.year month.month

theorem numbered : Numbered Valid next previous index where
  valid_forward month valid := by
    simp only [Valid] at valid
    simp only [Valid, next]
    split <;> dsimp only <;> omega
  valid_backward month valid := by
    simp only [Valid] at valid
    simp only [Valid, previous]
    split <;> dsimp only <;> omega
  number_forward month valid := by
    simp only [Valid] at valid
    simp only [index, next, monthIndex]
    split <;> dsimp only <;> omega
  number_backward month valid := by
    simp only [Valid] at valid
    simp only [index, previous, monthIndex]
    split <;> dsimp only <;> omega

theorem next_year_bounds (month : CivilMonth) :
    month.year ≤ month.next.year ∧ month.next.year ≤ month.year + 1 := by
  simp only [next]
  split <;> dsimp only <;> omega

theorem eq_of_index (month : CivilMonth) (valid : month.Valid) {number : Int}
    (counted : month.index = number) :
    month = { year := number / 12, month := (number % 12).toNat + 1 } := by
  simp only [Valid] at valid
  simp only [index, monthIndex] at counted
  apply CivilMonth.ext <;> dsimp only <;> omega

theorem away_valid (month : CivilMonth) (valid : month.Valid) (amount : Int) :
    (month.away amount).Valid :=
  numbered.stepBy_valid valid amount

theorem eq_of_index_eq {first second : CivilMonth} (firstValid : first.Valid)
    (secondValid : second.Valid) (same : first.index = second.index) : first = second := by
  rw [eq_of_index first firstValid same, ← eq_of_index second secondValid rfl]

theorem index_away (month : CivilMonth) (valid : month.Valid) (amount : Int) :
    (month.away amount).index = month.index + amount :=
  numbered.number_stepBy valid amount

theorem away_eq (month : CivilMonth) (valid : month.Valid) (amount : Int) :
    month.away amount = { year := (month.index + amount) / 12,
                          month := ((month.index + amount) % 12).toNat + 1 } :=
  eq_of_index _ (month.away_valid valid amount) (month.index_away valid amount)

theorem away_away (month : CivilMonth) (valid : month.Valid) (first second : Int) :
    (month.away first).away second = month.away (first + second) := by
  have firstValid := month.away_valid valid first
  apply eq_of_index_eq (away_valid _ firstValid second) (month.away_valid valid _)
  rw [index_away _ firstValid, index_away _ valid, index_away _ valid, Int.add_assoc]

theorem next_previous (month : CivilMonth) (valid : month.Valid) : month.previous.next = month := by
  have previousValid := numbered.valid_backward month valid
  apply eq_of_index_eq (numbered.valid_forward _ previousValid) valid
  rw [numbered.number_forward _ previousValid, numbered.number_backward _ valid]
  omega

theorem previous_next (month : CivilMonth) (valid : month.Valid) : month.next.previous = month := by
  have nextValid := numbered.valid_forward month valid
  apply eq_of_index_eq (numbered.valid_backward _ nextValid) valid
  rw [numbered.number_backward _ nextValid, numbered.number_forward _ valid]
  omega

theorem length_pos (month : CivilMonth) (valid : month.Valid) : 0 < month.length := by
  have long := monthLength_ge month.year month.month valid.1 valid.2
  simp only [length]
  omega

def date (month : CivilMonth) (day : Nat) : CivilDate where
  year := month.year
  month := month.month
  day := day

theorem date_valid (month : CivilMonth) (valid : month.Valid) {day : Nat} (lower : 1 ≤ day)
    (upper : day ≤ month.length) : (month.date day).Valid :=
  ⟨valid.1, valid.2, lower, upper⟩

end CivilMonth

namespace CivilDate

def civilMonth (date : CivilDate) : CivilMonth where
  year := date.year
  month := date.month

def next (date : CivilDate) : CivilDate :=
  if date.day < date.civilMonth.length then { date with day := date.day + 1 }
  else date.civilMonth.next.date 1

def previous (date : CivilDate) : CivilDate :=
  if 1 < date.day then { date with day := date.day - 1 }
  else date.civilMonth.previous.date date.civilMonth.previous.length

def daysAway (date : CivilDate) (amount : Int) : CivilDate :=
  stepBy next previous date amount

/-- The date a number of days away. A day past the end of its month stands for the day as many
days into the next one. -/
def daysFrom (date : CivilDate) (amount : Int) : CivilDate :=
  (date.civilMonth.date 1).daysAway (date.day - 1 + amount)

/-- The same day in the month that is an amount of single months away, or its last day if that
month is too short. -/
def monthsAway (date : CivilDate) (amount : Int) : CivilDate :=
  (date.civilMonth.away amount).date (min date.day (date.civilMonth.away amount).length)

theorem monthsAway_monthsAway (date : CivilDate) (monthValid : date.civilMonth.Valid)
    (first second : Int) :
    (date.monthsAway first).monthsAway second =
      (date.civilMonth.away (first + second)).date
        (min (min date.day (date.civilMonth.away first).length)
          (date.civilMonth.away (first + second)).length) := by
  rw [← CivilMonth.away_away _ monthValid]
  rfl

theorem civilMonth_valid (date : CivilDate) (valid : date.Valid) : date.civilMonth.Valid :=
  ⟨valid.1, valid.2.1⟩

theorem monthsAway_valid (date : CivilDate) (monthValid : date.civilMonth.Valid)
    (dayPos : 1 ≤ date.day) (amount : Int) : (date.monthsAway amount).Valid := by
  have targetValid := date.civilMonth.away_valid monthValid amount
  exact CivilMonth.date_valid _ targetValid
    (Nat.le_min.mpr ⟨dayPos, CivilMonth.length_pos _ targetValid⟩) (Nat.min_le_right _ _)

theorem day_bounds (date : CivilDate) (valid : date.Valid) :
    1 ≤ date.day ∧ date.day ≤ date.civilMonth.length :=
  valid.2.2

end CivilDate

end DateAdjust
