import DateAdjust.Token.Lexer

/-! Specs: lists of tokens, read from text and written back. -/

namespace DateAdjust

structure Spec where
  tokens : List Token := []
  deriving DecidableEq, Repr, Inhabited

namespace Spec

def isEmpty (spec : Spec) : Bool :=
  spec.tokens.isEmpty

def text (spec : Spec) : List Char :=
  spec.tokens.flatMap Token.text

instance : ToString Spec where
  toString spec := String.ofList spec.text

def read (strictness : Strictness) (text : List Char) : Except AdjustError Spec := do
  return { tokens := ← Token.scan strictness 0 [] (pieces text) }

def ofString (text : String) (strictness : Strictness := .lenient) : Except AdjustError Spec :=
  read strictness text.toList

end Spec

end DateAdjust
