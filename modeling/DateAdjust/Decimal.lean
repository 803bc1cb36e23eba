/-! Whole numbers in decimal digits. Reading takes ASCII digits alone, with any number of leading
zeros; writing gives the shortest digits, or pads them to a width. -/

namespace DateAdjust.Decimal

def read? (text : List Char) : Option Nat :=
  if text ≠ [] ∧ text.all Char.isDigit then some (Nat.ofDigitChars 10 text 0) else none

def write (number : Nat) : List Char :=
  Nat.toDigits 10 number

def writePadded (width number : Nat) : List Char :=
  (write number).leftpad width '0'

theorem isDigit_of_mem_write {number : Nat} {char : Char} (member : char ∈ write number) :
    char.isDigit :=
  Nat.isDigit_of_mem_toDigits (by decide) (by decide) member

theorem write_ne_nil (number : Nat) : write number ≠ [] :=
  List.ne_nil_of_length_pos Nat.length_toDigits_pos

theorem read?_write (number : Nat) : read? (write number) = some number := by
  have digits : write number ≠ [] ∧ (write number).all Char.isDigit :=
    ⟨write_ne_nil number, List.all_eq_true.mpr fun _ member => isDigit_of_mem_write member⟩
  rw [read?, if_pos digits, write, Nat.ofDigitChars_ten_toDigits]

end DateAdjust.Decimal
