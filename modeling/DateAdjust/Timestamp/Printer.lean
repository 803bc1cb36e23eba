import DateAdjust.Decimal
import DateAdjust.Timestamp.Basic

/-! The text of a timestamp: every field in digits padded to its width, as in
2011-03-31T15:45:54.000. -/

namespace DateAdjust

def dateSeparator : Char := '-'

def timeSeparator : Char := ':'

def fractionSeparator : Char := '.'

def dateTimeSeparator : Char := 'T'

def TimeOfDay.text (time : TimeOfDay) : List Char :=
  Decimal.writePadded 2 time.hour.val ++ [timeSeparator] ++
  Decimal.writePadded 2 time.minute.val ++ [timeSeparator] ++
  Decimal.writePadded 2 time.second.val ++ [fractionSeparator] ++
  Decimal.writePadded 3 time.millisecond.val

instance : ToString TimeOfDay where
  toString time := String.ofList time.text

def Timestamp.text (timestamp : Timestamp) : List Char :=
  Decimal.writePadded 4 timestamp.year.val ++ [dateSeparator] ++
  Decimal.writePadded 2 timestamp.month.val ++ [dateSeparator] ++
  Decimal.writePadded 2 timestamp.day.val ++ [dateTimeSeparator] ++
  timestamp.time.text

instance : ToString Timestamp where
  toString timestamp := String.ofList timestamp.text

end DateAdjust
