import DateAdjust.Field

/-! Natural numbers between two fixed bounds. Every component of a date or a time is one, so it is
always in range. -/

namespace DateAdjust

structure Bounded (least greatest : Nat) where
  val : Nat
  least_le : least ≤ val
  le_greatest : val ≤ greatest
  deriving DecidableEq, Repr

namespace Bounded

variable {least greatest : Nat}

@[ext]
theorem ext {first second : Bounded least greatest} (same : first.val = second.val) :
    first = second := by
  cases first
  cases second
  simp_all

def ofInt? (value : Int) : Option (Bounded least greatest) :=
  if inside : least ≤ value ∧ value ≤ greatest then some ⟨value.toNat, by omega, by omega⟩
  else none

def check (field : Field) (value : Int) : Except FieldError (Bounded least greatest) :=
  match ofInt? value with
  | some number => .ok number
  | none => .error { field, value, min := least, max := greatest }

theorem ofInt?_eq_some_iff {value : Int} {number : Bounded least greatest} :
    ofInt? value = some number ↔ (number.val : Int) = value := by
  unfold ofInt?
  constructor
  · intro accepted
    split at accepted
    · cases accepted
      simp only [Int.toNat_of_nonneg (by omega : 0 ≤ value)]
    · cases accepted
  · rintro rfl
    have lower := number.least_le
    have upper := number.le_greatest
    rw [dif_pos ⟨by omega, by omega⟩]
    rfl

theorem check_eq_ok_iff {field : Field} {value : Int} {number : Bounded least greatest} :
    check field value = .ok number ↔ (number.val : Int) = value := by
  rw [← ofInt?_eq_some_iff]
  unfold check
  split
  next found => simp [found]
  next missing => simp [missing]

theorem check_val (field : Field) (number : Bounded least greatest) :
    check field number.val = .ok number :=
  check_eq_ok_iff.mpr rfl

theorem check_of_mem (field : Field) (value : Int) (lower : least ≤ value)
    (upper : value ≤ greatest) :
    ∃ number : Bounded least greatest,
      check field value = .ok number ∧ (number.val : Int) = value := by
  have inside : (least : Int) ≤ value ∧ value ≤ greatest := ⟨lower, upper⟩
  refine ⟨⟨value.toNat, by omega, by omega⟩, check_eq_ok_iff.mpr ?_, ?_⟩
  · exact Int.toNat_of_nonneg (by omega)
  · exact Int.toNat_of_nonneg (by omega)

theorem check_of_not_mem (field : Field) (value : Int)
    (outside : ¬((least : Int) ≤ value ∧ value ≤ greatest)) :
    (check field value : Except FieldError (Bounded least greatest)) =
      .error { field, value, min := least, max := greatest } := by
  rw [check, ofInt?, dif_neg outside]

instance : Ord (Bounded least greatest) where
  compare first second := compare first.val second.val

end Bounded

end DateAdjust
