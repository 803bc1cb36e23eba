import DateAdjust.AdjustError

/-! The units of a spec and their letters, which are upper case. -/

namespace DateAdjust

inductive TimeUnit where
  | month
  | day
  deriving DecidableEq, Repr

namespace TimeUnit

def letter : TimeUnit → Char
  | month => 'M'
  | day => 'D'

def letters : List Char :=
  [month.letter, day.letter]

def field : TimeUnit → Field
  | month => .month
  | day => .day

def ofLetter (letter : Char) : Except AdjustError TimeUnit :=
  if letter = month.letter then .ok month
  else if letter = day.letter then .ok day
  else .error (.unrecognizedUnit letter)

theorem mem_letters_iff {char : Char} : char ∈ letters ↔ ∃ unit : TimeUnit, unit.letter = char := by
  constructor
  · intro member
    simp only [letters, List.mem_cons, List.not_mem_nil, or_false] at member
    rcases member with rfl | rfl
    · exact ⟨month, rfl⟩
    · exact ⟨day, rfl⟩
  · rintro ⟨unit, rfl⟩
    cases unit <;> simp [letters]

theorem ofLetter_letter (unit : TimeUnit) : ofLetter unit.letter = .ok unit := by
  cases unit <;> rfl

end TimeUnit

end DateAdjust
