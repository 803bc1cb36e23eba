import DateAdjust.Decimal
import DateAdjust.TimeUnit

/-! The tokens of a spec and their text: Z for midnight, a signed number and a unit for a shift, and
an equals sign, a number or L for the last value, and a unit for a set field. -/

namespace DateAdjust

inductive SetValue where
  | last
  | cardinal (value : UInt32)
  deriving DecidableEq, Repr

inductive Token where
  | zeroTime
  | shift (unit : TimeUnit) (amount : Int64)
  | set (unit : TimeUnit) (value : SetValue)
  deriving DecidableEq, Repr

namespace Token

def zeroLetter : Char := 'Z'

def setSign : Char := '='

def forwardSign : Char := '+'

def backwardSign : Char := '-'

def lastLetter : Char := 'L'

end Token

def SetValue.text : SetValue → List Char
  | last => [Token.lastLetter]
  | cardinal value => Decimal.write value.toNat

namespace Token

def text : Token → List Char
  | zeroTime => [zeroLetter]
  | shift unit amount =>
    (if amount.toInt < 0 then backwardSign else forwardSign) ::
      (Decimal.write amount.toInt.natAbs ++ [unit.letter])
  | set unit value => setSign :: (value.text ++ [unit.letter])

instance : ToString Token where
  toString token := String.ofList token.text

end Token

end DateAdjust
