import DateAdjust.Field

/-! Computations whose numbers are held in words. A number that does not fit its word is a fault,
and so is a missing value; a refusal with a report is an outcome like any other. -/

namespace DateAdjust

inductive Fault where
  | overflow (number : Int)
  | missing
  | noMonth (number : Nat)
  deriving DecidableEq, Repr

abbrev Checked := Except Fault

abbrev Attempt := ExceptT FieldError Checked

inductive Width where
  | unlimited
  /-- Words of 64 bits with a sign. -/
  | long
  deriving DecidableEq, Repr

namespace Width

def Fits : Width → Int → Prop
  | unlimited, _ => True
  | long, number => Int64.minValue.toInt ≤ number ∧ number ≤ Int64.maxValue.toInt

instance : (width : Width) → (number : Int) → Decidable (width.Fits number)
  | unlimited, _ => inferInstanceAs (Decidable True)
  | long, _ => inferInstanceAs (Decidable (_ ∧ _))

def hold (width : Width) (number : Int) : Checked Int :=
  if width.Fits number then .ok number else .error (.overflow number)

end Width

/-- The number in a word without a sign, for words that have as many values as the size says. -/
def narrowTo (size : Nat) (number : Int) : Checked Nat :=
  if 0 ≤ number ∧ number < size then .ok number.toNat else .error .missing

def present {α : Type} : Option α → Checked α
  | some value => .ok value
  | none => .error .missing

end DateAdjust
