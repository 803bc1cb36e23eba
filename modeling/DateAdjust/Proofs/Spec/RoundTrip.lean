import DateAdjust.Proofs.Spec.Strict
import DateAdjust.Stored

/-! Written specs read back. The text of every token is a lexeme of the token's own step, so it is
read back however many blanks stand around it. -/

namespace DateAdjust

theorem Decimal.denotes_write (number : Nat) : Denotes (write number) number :=
  read?_eq_some_iff.mp (read?_write number)

theorem Token.lexeme_text (token : Token) : Lexeme token.text token.step := by
  cases token with
  | zeroTime => exact .zeroTime
  | shift unit amount =>
      have denotes := Decimal.denotes_write amount.toInt.natAbs
      simp only [Token.text, Token.step]
      by_cases negative : amount.toInt < 0
      · rw [if_pos negative]
        have value : amount.toInt = -(amount.toInt.natAbs : Int) := by omega
        have lexeme := Lexeme.backward unit denotes
        rwa [← value] at lexeme
      · rw [if_neg negative]
        have value : amount.toInt = (amount.toInt.natAbs : Int) := by omega
        have lexeme := Lexeme.forward unit denotes
        rwa [← value] at lexeme
  | set unit value =>
      cases value with
      | last => exact .setLast unit
      | cardinal value => exact .setTo unit (Decimal.denotes_write value.toNat)

/-- The texts of tokens in order, with any blanks before, between and after them. -/
inductive Spaced : List Token → List Char → Prop
  | nil : Spaced [] []
  | blank {char : Char} {rest : List Char} {tokens : List Token} :
      Text.isBlank char → Spaced tokens rest → Spaced tokens (char :: rest)
  | token (token : Token) {rest : List Char} {tokens : List Token} :
      Spaced tokens rest → Spaced (token :: tokens) (token.text ++ rest)

namespace Spaced

theorem text (tokens : List Token) : Spaced tokens (Spec.text { tokens }) := by
  simp only [Spec.text]
  induction tokens with
  | nil => exact .nil
  | cons token tokens ih => exact .token token ih

theorem spells {tokens : List Token} {text : List Char} (spaced : Spaced tokens text) :
    Spells text (tokens.map Token.step) := by
  induction spaced with
  | nil => exact .nil
  | blank blank _ ih => exact .blank blank ih
  | token token _ ih => exact .lexeme token.lexeme_text ih

theorem read {tokens : List Token} {text : String} (spaced : Spaced tokens text.toList)
    (strictness : Strictness) : Spec.ofString text strictness = .ok { tokens } := by
  have same : (tokens.map Token.step).map Step.token = tokens := by
    rw [List.map_map]
    exact List.map_id'' Token.token_step tokens
  rw [Spec.ofString, spaced.spells.read, same]

theorem decode {tokens : List Token} {text : String} (spaced : Spaced tokens text.toList) :
    Stored.decode (.string text) = .ok ({ tokens } : Spec) := by
  change StoredError.rejecting AdjustError.message (Spec.ofString text .strict) = _
  rw [spaced.read]
  rfl

end Spaced

theorem Token.spaced_toString (token : Token) : Spaced [token] (toString token).toList := by
  have spaced : Spaced [token] (token.text ++ []) := .token token .nil
  rw [List.append_nil] at spaced
  change Spaced [token] (String.ofList token.text).toList
  rwa [String.toList_ofList]

theorem Spec.spaced_toString (tokens : List Token) :
    Spaced tokens (toString ({ tokens } : Spec)).toList := by
  change Spaced tokens (String.ofList _).toList
  rw [String.toList_ofList]
  exact Spaced.text tokens

theorem evaluate_of_accepted {State : Type} [Calendar State] (origin : State) {text : String}
    {strictness : Strictness} {spec : Spec} (accepted : Spec.ofString text strictness = .ok spec) :
    evaluate origin text strictness = (spec.apply origin).mapError .invalidField := by
  simp only [evaluate]
  split
  next empty =>
    have noTokens : Spec.ofString "" strictness = .ok { tokens := [] } :=
      Spaced.read .nil strictness
    rw [← String.isEmpty_iff.mp empty, accepted] at noTokens
    cases noTokens
    rfl
  next =>
    rw [accepted]
    rfl

/-- Tokens are read back from their written text, strictly, leniently and from their stored form,
and from their texts with blanks around them. A spec that is written anew and read strictly
therefore does what the first text did leniently. -/
theorem Spec.ofString_toString :
    (∀ tokens : List Token,
      (∀ strictness, Spec.ofString (toString ({ tokens } : Spec)) strictness = .ok { tokens }) ∧
      Stored.decode (Stored.encode ({ tokens } : Spec)) = .ok ({ tokens } : Spec) ∧
      ∀ text : String, Spaced tokens text.toList →
        (∀ strictness, Spec.ofString text strictness = .ok { tokens }) ∧
        Stored.decode (.string text) = .ok ({ tokens } : Spec)) ∧
    ∀ {State : Type} [Calendar State] (origin : State) (text : String), ∃ spec,
      Spec.ofString text = .ok spec ∧
      evaluate origin text .lenient = evaluate origin (toString spec) .strict := by
  constructor
  · intro tokens
    exact ⟨(spaced_toString tokens).read, (spaced_toString tokens).decode,
      fun text spaced => ⟨spaced.read, spaced.decode⟩⟩
  · intro State _ origin text
    have accepted : Spec.ofString text = .ok { tokens := (steps text.toList).map Step.token } :=
      read_lenient text.toList
    refine ⟨_, accepted, ?_⟩
    rw [evaluate_of_accepted origin accepted,
      evaluate_of_accepted origin ((spaced_toString _).read .strict)]

theorem Spec.ofString_toString_spaced :
    Spaced [.shift .month Int64.minValue, .set .day .last]
        " -9223372036854775808M\u00a0=LD".toList ∧
      Spec.ofString " -9223372036854775808M\u00a0=LD" .strict =
        .ok { tokens := [.shift .month Int64.minValue, .set .day .last] } := by
  have spaced : Spaced [.shift .month Int64.minValue, .set .day .last]
      " -9223372036854775808M\u00a0=LD".toList :=
    .blank (by decide) (.token (.shift .month Int64.minValue) (.blank (by decide)
      (.token (.set .day .last) .nil)))
  exact ⟨spaced, ((Spec.ofString_toString.1 _).2.2 _ spaced).1 .strict⟩

end DateAdjust
