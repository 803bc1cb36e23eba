import DateAdjust.Field
import DateAdjust.Text.Quoted

/-! Why an adjustment fails. -/

namespace DateAdjust

inductive AdjustError where
  | unrecognizedUnit (letter : Char)
  | invalidField (error : FieldError)
  /-- Text that is no token, at a byte offset into the spec. -/
  | malformedSpec (offset : Nat) (fragment : String)
  deriving DecidableEq, Repr

def AdjustError.message : AdjustError → String
  | unrecognizedUnit letter => s!"Invalid Time Unit: {letter}"
  | invalidField error => error.message
  | malformedSpec offset fragment =>
    s!"Unrecognized spec fragment {String.ofList (Text.quote fragment.toList)} at offset {offset}"

end DateAdjust
