import DateAdjust.Token.Basic

/-! Steps with exact numbers of any size. A token holds the same step in machine numbers: a number
too large for its kind becomes the nearest that fits. -/

namespace DateAdjust

inductive Step where
  | zeroTime
  | shift (unit : TimeUnit) (amount : Int)
  | setLast (unit : TimeUnit)
  | setTo (unit : TimeUnit) (value : Nat)
  deriving DecidableEq, Repr

def Step.token : Step → Token
  | zeroTime => .zeroTime
  | shift unit amount => .shift unit (Int64.ofIntClamp amount)
  | setLast unit => .set unit .last
  | setTo unit value => .set unit (.cardinal (UInt32.ofNatClamp value))

def Token.step : Token → Step
  | zeroTime => .zeroTime
  | shift unit amount => .shift unit amount.toInt
  | set unit .last => .setLast unit
  | set unit (.cardinal value) => .setTo unit value.toNat

@[simp]
theorem Token.token_step (token : Token) : token.step.token = token := by
  cases token with
  | zeroTime => rfl
  | shift unit amount => simp [Token.step, Step.token]
  | set unit value => cases value <;> simp [Token.step, Step.token]

end DateAdjust
