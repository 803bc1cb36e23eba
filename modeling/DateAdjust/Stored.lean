import DateAdjust.Spec
import DateAdjust.Timestamp.Reader

/-! Stored forms: components as numbers, timestamps and specs as their text, times of day as
objects. Reading one checks it as strictly as building the value. -/

namespace DateAdjust

/-- Stored data. A number that is not written as a whole number is a fraction, by its digits and
the number of decimal places. -/
inductive StoredValue where
  | null
  | boolean (value : Bool)
  | integer (value : Int)
  | fraction (digits : Int) (places : Nat)
  | string (value : String)
  | array (items : List StoredValue)
  | object (fields : List (String × StoredValue))
  deriving Inhabited

inductive StoredError where
  | invalidType
  | invalidValue
  | invalidLength
  | missingField
  | duplicateField
  | unknownVariant
  | rejected (message : String)
  deriving DecidableEq, Repr

inductive TimeKey where
  | hour
  | minute
  | second
  | millisecond
  deriving DecidableEq

namespace TimeKey

def all : List TimeKey := [hour, minute, second, millisecond]

def name : TimeKey → String
  | hour => "hour"
  | minute => "minute"
  | second => "second"
  | millisecond => "millisecond"

def ofName? (name : String) : Option TimeKey :=
  all.find? fun key => key.name = name

/-- The largest number that fits into the field, whether or not it is one of a time. -/
def limit : TimeKey → Nat
  | hour | minute | second => 255
  | millisecond => 65535

def select {α : Type} (ofHour ofMinute ofSecond ofMillisecond : α) : TimeKey → α
  | hour => ofHour
  | minute => ofMinute
  | second => ofSecond
  | millisecond => ofMillisecond

end TimeKey

def TimeOfDay.number (time : TimeOfDay) : TimeKey → Nat :=
  TimeKey.select time.hour.val time.minute.val time.second.val time.millisecond.val

class Stored (α : Type) where
  encode : α → StoredValue
  decode : StoredValue → Except StoredError α

namespace StoredValue

/-- A natural number up to a limit. Whole numbers beyond 64 bits do not count as such. -/
def natural (limit : Nat) : StoredValue → Except StoredError Nat
  | integer value =>
    if 0 ≤ value ∧ value ≤ limit then .ok value.toNat
    else if Int64.minValue.toInt ≤ value ∧ value < UInt64.size then .error .invalidValue
    else .error .invalidType
  | _ => .error .invalidType

def text : StoredValue → Except StoredError String
  | string value => .ok value
  | _ => .error .invalidType

def naturals : List Nat → List StoredValue → Except StoredError (List Nat)
  | [], [] => .ok []
  | limit :: limits, item :: items => do
    let number ← item.natural limit
    return number :: (← naturals limits items)
  | _, _ => .error .invalidLength

/-- Goes through the fields of an object in their order, with the numbers found so far. A key may
stand only once, and keys of another name are passed over. -/
def collectTime (found : TimeKey → Option Nat) :
    List (String × StoredValue) → Except StoredError (TimeKey → Option Nat)
  | [] => .ok found
  | (name, value) :: fields =>
    match TimeKey.ofName? name with
    | none => collectTime found fields
    | some key =>
      if (found key).isSome then .error .duplicateField
      else do
        let number ← value.natural key.limit
        collectTime (fun other => if other = key then some number else found other) fields

def timeNumbers : StoredValue → Except StoredError (TimeKey → Nat)
  | object fields => do
    let found ← collectTime (fun _ => none) fields
    match found .hour, found .minute, found .second, found .millisecond with
    | some hour, some minute, some second, some millisecond =>
      return TimeKey.select hour minute second millisecond
    | _, _, _, _ => .error .missingField
  | array items => do
    match ← naturals (TimeKey.all.map TimeKey.limit) items with
    | [hour, minute, second, millisecond] => return TimeKey.select hour minute second millisecond
    | _ => .error .invalidLength
  | _ => .error .invalidType

end StoredValue

def StoredError.rejecting {ε α : Type} (message : ε → String) : Except ε α → Except StoredError α :=
  Except.mapError fun error => .rejected (message error)

instance : Stored Year where
  encode year := .integer year.val
  decode value := do StoredError.rejecting FieldError.message (Year.check (← value.natural 65535))

instance : Stored Month where
  encode month := .integer month.val
  decode value := do StoredError.rejecting FieldError.message (Month.check (← value.natural 255))

instance : Stored Day where
  encode day := .integer day.val
  decode value := do StoredError.rejecting FieldError.message (Day.check (← value.natural 255))

instance : Stored TimeOfDay where
  encode time := .object (TimeKey.all.map fun key => (key.name, .integer (time.number key)))
  decode value := do
    let numbers ← value.timeNumbers
    StoredError.rejecting FieldError.message
      (TimeOfDay.check (numbers .hour) (numbers .minute) (numbers .second) (numbers .millisecond))

instance : Stored Timestamp where
  encode timestamp := .string (toString timestamp)
  decode value := do StoredError.rejecting ReadError.message (Timestamp.ofString (← value.text))

instance : Stored Spec where
  encode spec := .string (toString spec)
  decode value := do
    StoredError.rejecting AdjustError.message (Spec.ofString (← value.text) .strict)

def Strictness.name : Strictness → String
  | lenient => "lenient"
  | strict => "strict"

def Strictness.ofName (name : String) : Except StoredError Strictness :=
  if name = "lenient" then .ok .lenient
  else if name = "strict" then .ok .strict
  else .error .unknownVariant

/-- A name stands by itself or as the only key of an object with nothing under it. -/
instance : Stored Strictness where
  encode strictness := .string strictness.name
  decode
    | .string name => Strictness.ofName name
    | .object [(name, content)] => do
      let strictness ← Strictness.ofName name
      match content with
      | .null => return strictness
      | _ => .error .invalidType
    | .object _ => .error .invalidValue
    | _ => .error .invalidType

end DateAdjust
