import DateAdjust.Timestamp.Calendar

/-! Months and days asked for in machine words, which are narrowed to bytes before they are held
against a range. A word that is no byte is reported as it was given. -/

namespace DateAdjust

def narrow? (word : UInt32) : Option UInt8 :=
  if word.toNat < UInt8.size then some word.toUInt8 else none

theorem narrow?_of_lt {word : UInt32} (fits : word.toNat < UInt8.size) :
    ∃ byte, narrow? word = some byte ∧ byte.toNat = word.toNat := by
  refine ⟨word.toUInt8, if_pos fits, ?_⟩
  rw [UInt32.toNat_toUInt8]
  exact Nat.mod_eq_of_lt fits

theorem narrow?_of_not_lt {word : UInt32} (wide : ¬word.toNat < UInt8.size) :
    narrow? word = none :=
  if_neg wide

def Bounded.ofByte {greatest : Nat} (field : Field) (limit : Bounded 1 greatest) (byte : UInt8) :
    Except FieldError (Bounded 1 greatest) :=
  let refused : FieldError := { field, value := byte.toNat, min := 1, max := limit.val }
  if zero : byte.toNat = 0 then .error refused
  else if past : limit.val < byte.toNat then .error refused
  else .ok ⟨byte.toNat, Nat.pos_of_ne_zero zero, by have := limit.le_greatest; omega⟩

theorem Bounded.ofByte_eq_of_mem {greatest : Nat} {field : Field}
    {limit number : Bounded 1 greatest} {byte : UInt8} (same : number.val = byte.toNat)
    (upper : number.val ≤ limit.val) : ofByte field limit byte = .ok number := by
  have lower := number.least_le
  rw [ofByte, dif_neg (by omega), dif_neg (by omega)]
  exact congrArg _ (Bounded.ext same.symm)

theorem Bounded.ofByte_of_not_mem {greatest : Nat} {field : Field} {limit : Bounded 1 greatest}
    {byte : UInt8} (outside : ¬(1 ≤ byte.toNat ∧ byte.toNat ≤ limit.val)) :
    ofByte field limit byte =
      .error { field, value := byte.toNat, min := 1, max := limit.val } := by
  rw [ofByte]
  split
  · rfl
  · rw [dif_pos (by omega)]

namespace Month

def ofByte (byte : UInt8) : Except FieldError Month :=
  Bounded.ofByte .month december byte

def ofWord (word : UInt32) : Except FieldError Month :=
  match narrow? word with
  | some byte => ofByte byte
  | none => .error { field := .month, value := word.toNat, min := 1, max := december.val }

theorem ofByte_eq (byte : UInt8) : ofByte byte = check byte.toNat := by
  by_cases inside : 1 ≤ byte.toNat ∧ byte.toNat ≤ 12
  · obtain ⟨month, checked, same⟩ := check_of_mem byte.toNat (by omega) (by omega)
    rw [checked]
    exact Bounded.ofByte_eq_of_mem (Int.ofNat.inj same) month.le_greatest
  · rw [check_of_not_mem _ (by omega)]
    exact Bounded.ofByte_of_not_mem inside

theorem ofWord_eq (word : UInt32) : ofWord word = check word.toNat := by
  by_cases fits : word.toNat < UInt8.size
  · obtain ⟨byte, narrowed, same⟩ := narrow?_of_lt fits
    simp only [ofWord, narrowed, ofByte_eq, same]
  · have size : UInt8.size = 256 := rfl
    simp only [ofWord, narrow?_of_not_lt fits]
    exact (check_of_not_mem _ (by omega)).symm

end Month

namespace Day

def ofByte (year : UInt16) (month byte : UInt8) : Except FieldError Day := do
  let month ← Month.ofByte month
  Bounded.ofByte .day (lastOf year.toNat month) byte

def ofWord (year : UInt16) (month : UInt8) (word : UInt32) : Except FieldError Day :=
  match narrow? word with
  | some byte => ofByte year month byte
  | none =>
    .error { field := .day, value := word.toNat, min := 1,
             max := monthLength year.toNat month.toNat }

theorem ofByte_eq (year : UInt16) (month byte : UInt8) :
    ofByte year month byte = checkInMonth year.toNat month.toNat byte.toNat := by
  rw [ofByte, checkInMonth, Month.ofByte_eq]
  cases Month.check month.toNat with
  | error error => rfl
  | ok month =>
      change Bounded.ofByte .day (lastOf year.toNat month) byte =
        checkIn year.toNat month byte.toNat
      by_cases inside : 1 ≤ byte.toNat ∧ byte.toNat ≤ (lastOf year.toNat month).val
      · obtain ⟨day, checked, same⟩ :=
          checkIn_of_mem year.toNat month byte.toNat (by omega) (Int.ofNat_le.mpr inside.2)
        rw [checked]
        exact Bounded.ofByte_eq_of_mem (Int.ofNat.inj same) (Int.ofNat.inj same ▸ inside.2)
      · rw [checkIn_of_not_mem _ _ _ (by omega)]
        exact Bounded.ofByte_of_not_mem inside

theorem ofWord_eq {year : UInt16} {byte : UInt8} {month : Month} (same : byte.toNat = month.val)
    (word : UInt32) : ofWord year byte word = checkIn year.toNat month word.toNat := by
  by_cases fits : word.toNat < UInt8.size
  · obtain ⟨narrowed, found, sameDay⟩ := narrow?_of_lt fits
    simp only [ofWord, found, ofByte_eq, checkInMonth, same, sameDay]
    rw [Month.check, Bounded.check_val]
    rfl
  · have size : UInt8.size = 256 := rfl
    have short := (lastOf year.toNat month).le_greatest
    simp only [ofWord, narrow?_of_not_lt fits, same]
    exact (checkIn_of_not_mem _ _ _ (by omega)).symm

end Day

namespace Timestamp

def setWord (timestamp : Timestamp) (unit : TimeUnit) (word : UInt32) :
    Except FieldError Timestamp :=
  match unit with
  | .month => do
    let month ← Month.ofWord word
    return { timestamp with month, day := timestamp.day.clamp timestamp.year.val month }
  | .day => do
    let day ← Day.ofWord (.ofNat timestamp.year.val) (.ofNat timestamp.month.val) word
    return { timestamp with day }

theorem setWord_eq (timestamp : Timestamp) (unit : TimeUnit) (word : UInt32) :
    timestamp.setWord unit word = timestamp.set unit word.toNat := by
  cases unit with
  | month => simp only [setWord, set, Month.ofWord_eq]
  | day =>
      have year : (UInt16.ofNat timestamp.year.val).toNat = timestamp.year.val :=
        UInt16.toNat_ofNat_of_lt (Nat.lt_of_le_of_lt timestamp.year.le_greatest (by decide))
      have month : (UInt8.ofNat timestamp.month.val).toNat = timestamp.month.val :=
        UInt8.toNat_ofNat_of_lt (Nat.lt_of_le_of_lt timestamp.month.le_greatest (by decide))
      simp only [setWord, set, Day.ofWord_eq month, year]

end Timestamp

end DateAdjust
