/-! The numeric fields of a date and time, and the report of a value that is out of range. -/

namespace DateAdjust

inductive Field where
  | year
  | month
  | day
  | hour
  | minute
  | second
  | millisecond
  deriving DecidableEq, Repr

def Field.name : Field → String
  | year => "year"
  | month => "month"
  | day => "day"
  | hour => "hour"
  | minute => "minute"
  | second => "second"
  | millisecond => "millisecond"

structure FieldError where
  field : Field
  value : Int
  min : Int
  max : Int
  deriving DecidableEq, Repr

def FieldError.message (error : FieldError) : String :=
  s!"Invalid {error.field.name}: {error.value} (must be {error.min}-{error.max})"

end DateAdjust
