import DateAdjust.Token.Lexer

/-! The grammar of a spec: which texts are lexemes and which step each one stands for. A match is
found exactly where a lexeme stands, and its groups give the step. -/

namespace DateAdjust

/-- One digit or more, with the number they stand for. Zeros in front do not matter. -/
structure Decimal.Denotes (digits : List Char) (number : Nat) : Prop where
  ne_nil : digits ≠ []
  isDigit : ∀ char ∈ digits, char.isDigit
  value : Nat.ofDigitChars 10 digits 0 = number

theorem Decimal.read?_eq_some_iff {digits : List Char} {number : Nat} :
    read? digits = some number ↔ Denotes digits number := by
  simp only [read?]
  constructor
  · intro found
    split at found
    next isNumber =>
      exact ⟨isNumber.1, List.all_eq_true.mp isNumber.2, Option.some.inj found⟩
    next => cases found
  · rintro ⟨notEmpty, digits, value⟩
    rw [if_pos ⟨notEmpty, List.all_eq_true.mpr digits⟩, value]

/-- The text of a step, with its exact number. -/
inductive Lexeme : List Char → Step → Prop
  | zeroTime : Lexeme ['Z'] .zeroTime
  | setLast (unit : TimeUnit) : Lexeme ['=', 'L', unit.letter] (.setLast unit)
  | setTo {digits : List Char} {number : Nat} (unit : TimeUnit) : Decimal.Denotes digits number →
      Lexeme ('=' :: (digits ++ [unit.letter])) (.setTo unit number)
  | forward {digits : List Char} {number : Nat} (unit : TimeUnit) : Decimal.Denotes digits number →
      Lexeme ('+' :: (digits ++ [unit.letter])) (.shift unit number)
  | backward {digits : List Char} {number : Nat} (unit : TimeUnit) :
      Decimal.Denotes digits number →
      Lexeme ('-' :: (digits ++ [unit.letter])) (.shift unit (-number))

namespace Groups

theorem unitOf_letter (unit : TimeUnit) : unitOf [unit.letter] = .ok unit :=
  unit.ofLetter_letter

/-- What a match stands for: its text and, wherever it is found, its step. -/
structure Means (groups : Groups) (lexeme : List Char) (step : Step) : Prop where
  whole : groups.whole = lexeme
  step : ∀ offset, groups.step offset = .ok step

theorem ofLast_means (unit : TimeUnit) :
    (ofSet [Token.lastLetter] unit.letter).Means ['=', 'L', unit.letter] (.setLast unit) where
  whole := rfl
  step offset := by
    simp only [step, ofSet, unitOf_letter]
    rfl

section Digits

variable {digits : List Char} {number : Nat} (denotes : Decimal.Denotes digits number)
  (unit : TimeUnit)

include denotes

theorem ofCardinal_means :
    (ofSet digits unit.letter).Means ('=' :: (digits ++ [unit.letter])) (.setTo unit number) where
  whole := rfl
  step offset := by
    have notLast : digits.head? ≠ some Token.lastLetter := by
      intro head
      have isDigit := denotes.isDigit _ (List.mem_of_mem_head? head)
      exact absurd isDigit (by decide)
    simp only [step, ofSet, unitOf_letter]
    rw [← denotes.value]
    exact if_neg notLast

theorem forward_means : (ofShift '+' digits unit.letter).Means ('+' :: (digits ++ [unit.letter]))
    (.shift unit number) where
  whole := rfl
  step offset := by
    simp only [step, ofShift, unitOf_letter]
    rw [← denotes.value]
    rfl

theorem backward_means : (ofShift '-' digits unit.letter).Means ('-' :: (digits ++ [unit.letter]))
    (.shift unit (-number)) where
  whole := rfl
  step offset := by
    simp only [step, ofShift, unitOf_letter]
    rw [← denotes.value]
    rfl

end Digits

/-- Every match is the text of a step, so none of its groups is missing or fails to be a unit. -/
theorem Formed.means {groups : Groups} (formed : groups.Formed) :
    ∃ step, Lexeme groups.whole step ∧ groups.Means groups.whole step := by
  cases formed with
  | ofZero => exact ⟨.zeroTime, .zeroTime, rfl, fun _ => rfl⟩
  | ofLast isLetter =>
      obtain ⟨unit, rfl⟩ := TimeUnit.mem_letters_iff.mp isLetter
      exact ⟨_, .setLast unit, ofLast_means unit⟩
  | ofCardinal notEmpty isDigit isLetter =>
      obtain ⟨unit, rfl⟩ := TimeUnit.mem_letters_iff.mp isLetter
      have denotes : Decimal.Denotes _ _ := ⟨notEmpty, isDigit, rfl⟩
      exact ⟨_, .setTo unit denotes, ofCardinal_means denotes unit⟩
  | ofShift isSign notEmpty isDigit isLetter =>
      obtain ⟨unit, rfl⟩ := TimeUnit.mem_letters_iff.mp isLetter
      have denotes : Decimal.Denotes _ _ := ⟨notEmpty, isDigit, rfl⟩
      rcases isSign with rfl | rfl
      · exact ⟨_, .forward unit denotes, forward_means denotes unit⟩
      · exact ⟨_, .backward unit denotes, backward_means denotes unit⟩

theorem means_of_match? {text rest : List Char} {groups : Groups}
    (found : match? text = some (groups, rest)) :
    ∃ step, Lexeme groups.whole step ∧ groups.Means groups.whole step ∧
      text = groups.whole ++ rest := by
  obtain ⟨formed, joined⟩ := formed_of_match? found
  obtain ⟨step, isLexeme, means⟩ := formed.means
  exact ⟨step, isLexeme, means, joined⟩

end Groups

namespace Lexeme

theorem exists_formed {lexeme : List Char} {step : Step} (isLexeme : Lexeme lexeme step) :
    ∃ groups : Groups, groups.Formed ∧ groups.Means lexeme step := by
  have letter : ∀ unit : TimeUnit, unit.letter ∈ TimeUnit.letters :=
    fun unit => TimeUnit.mem_letters_iff.mpr ⟨unit, rfl⟩
  cases isLexeme with
  | zeroTime => exact ⟨_, .ofZero, rfl, fun _ => rfl⟩
  | setLast unit => exact ⟨_, .ofLast (letter unit), Groups.ofLast_means unit⟩
  | setTo unit denotes =>
      exact ⟨_, .ofCardinal denotes.ne_nil denotes.isDigit (letter unit),
        Groups.ofCardinal_means denotes unit⟩
  | forward unit denotes =>
      exact ⟨_, .ofShift (.inl rfl) denotes.ne_nil denotes.isDigit (letter unit),
        Groups.forward_means denotes unit⟩
  | backward unit denotes =>
      exact ⟨_, .ofShift (.inr rfl) denotes.ne_nil denotes.isDigit (letter unit),
        Groups.backward_means denotes unit⟩

theorem match? {lexeme : List Char} {step : Step} (isLexeme : Lexeme lexeme step)
    (rest : List Char) :
    ∃ groups, Groups.match? (lexeme ++ rest) = some (groups, rest) ∧ groups.Means lexeme step := by
  obtain ⟨groups, formed, means⟩ := isLexeme.exists_formed
  refine ⟨groups, ?_, means⟩
  rw [← means.whole]
  exact formed.match? rest

theorem match?_ne_none {lexeme : List Char} {step : Step} (isLexeme : Lexeme lexeme step)
    (rest : List Char) : Groups.match? (lexeme ++ rest) ≠ none := by
  obtain ⟨groups, found, _⟩ := isLexeme.match? rest
  rw [found]
  exact Option.some_ne_none _

theorem unique {first second rest after : List Char} {step other : Step}
    (isFirst : Lexeme first step) (isSecond : Lexeme second other)
    (same : first ++ rest = second ++ after) : first = second ∧ step = other ∧ rest = after := by
  obtain ⟨groups, found, means⟩ := isFirst.match? rest
  obtain ⟨others, otherFound, otherMeans⟩ := isSecond.match? after
  rw [same, otherFound] at found
  cases found
  refine ⟨means.whole.symm.trans otherMeans.whole, ?_, rfl⟩
  exact Except.ok.inj ((means.step 0).symm.trans (otherMeans.step 0))

def Opens (char : Char) : Prop :=
  char = 'Z' ∨ char = '=' ∨ char = '+' ∨ char = '-'

/-- The characters that stand in lexemes behind their first one. -/
def Continues (char : Char) : Prop :=
  char = 'L' ∨ char = 'M' ∨ char = 'D' ∨ char.isDigit

instance (char : Char) : Decidable (Continues char) :=
  inferInstanceAs (Decidable (_ ∨ _ ∨ _ ∨ _))

theorem continues_letter (unit : TimeUnit) : Continues unit.letter := by
  cases unit with
  | month => exact .inr (.inl rfl)
  | day => exact .inr (.inr (.inl rfl))

theorem continues_of_mem_tail {first : Char} {tail : List Char} {step : Step}
    (isLexeme : Lexeme (first :: tail) step) : ∀ char ∈ tail, Continues char := by
  have counted : ∀ {digits : List Char} {number : Nat} (unit : TimeUnit),
      Decimal.Denotes digits number → ∀ char ∈ digits ++ [unit.letter], Continues char := by
    intro digits number unit denotes char member
    rcases List.mem_append.mp member with inDigits | isLetter
    · exact .inr (.inr (.inr (denotes.isDigit char inDigits)))
    · rw [List.mem_singleton.mp isLetter]
      exact continues_letter unit
  cases isLexeme with
  | zeroTime =>
      intro char member
      cases member
  | setLast unit =>
      intro char member
      simp only [List.mem_cons, List.not_mem_nil, or_false] at member
      rcases member with rfl | rfl
      · exact .inl rfl
      · exact continues_letter unit
  | setTo unit denotes => exact counted unit denotes
  | forward unit denotes => exact counted unit denotes
  | backward unit denotes => exact counted unit denotes

theorem not_opens_of_continues {char : Char} (continues : Continues char) : ¬Opens char := by
  rintro (rfl | rfl | rfl | rfl) <;> exact absurd continues (by decide)

theorem opens {lexeme : List Char} {step : Step} (isLexeme : Lexeme lexeme step) :
    ∃ first rest, lexeme = first :: rest ∧ Opens first ∧ ∀ char ∈ rest, ¬Opens char := by
  have begins : ∃ first rest, lexeme = first :: rest ∧ Opens first := by
    cases isLexeme with
    | zeroTime => exact ⟨_, _, rfl, .inl rfl⟩
    | setLast unit => exact ⟨_, _, rfl, .inr (.inl rfl)⟩
    | setTo unit denotes => exact ⟨_, _, rfl, .inr (.inl rfl)⟩
    | forward unit denotes => exact ⟨_, _, rfl, .inr (.inr (.inl rfl))⟩
    | backward unit denotes => exact ⟨_, _, rfl, .inr (.inr (.inr rfl))⟩
  obtain ⟨first, rest, rfl, opening⟩ := begins
  refine ⟨first, rest, rfl, opening, ?_⟩
  intro char member
  exact not_opens_of_continues (isLexeme.continues_of_mem_tail char member)

theorem ne_nil {lexeme : List Char} {step : Step} (isLexeme : Lexeme lexeme step) :
    lexeme ≠ [] := by
  obtain ⟨first, rest, rfl, _⟩ := isLexeme.opens
  exact List.cons_ne_nil first rest

theorem not_inside {lexeme other front rest after : List Char} {step otherStep : Step}
    (isLexeme : Lexeme lexeme step) (isOther : Lexeme other otherStep)
    (same : lexeme ++ after = front ++ (other ++ rest)) :
    front = [] ∨ lexeme.length ≤ front.length := by
  obtain ⟨first, tail, rfl, _, closed⟩ := isLexeme.opens
  obtain ⟨otherFirst, otherTail, rfl, opening, _⟩ := isOther.opens
  rcases List.append_eq_append_iff.mp same with ⟨between, rfl, _⟩ | ⟨middle, split, ends⟩
  · right
    simp
  · cases middle with
    | nil =>
        rw [split, List.append_nil]
        exact .inr (Nat.le_refl _)
    | cons char middle =>
        cases front with
        | nil => exact .inl rfl
        | cons frontFirst front =>
            -- The second lexeme would begin with a character of the first one's tail.
            simp only [List.cons_append, List.cons.injEq] at split ends
            refine absurd opening (closed otherFirst ?_)
            rw [split.2, ends.1]
            simp

end Lexeme

@[simp]
theorem pieces_nil : pieces [] = [] := by
  rw [pieces]
  rfl

theorem Groups.Formed.pieces {groups : Groups} (formed : groups.Formed) (rest : List Char) :
    pieces (groups.whole ++ rest) = .lexeme groups :: DateAdjust.pieces rest := by
  have found := formed.match? rest
  rw [DateAdjust.pieces]
  split
  next other =>
    rw [found] at other
    cases other
    rfl
  next missing =>
    rw [found] at missing
    cases missing

theorem pieces_append {lexeme : List Char} {step : Step} (isLexeme : Lexeme lexeme step) :
    ∃ groups : Groups, groups.Means lexeme step ∧
      ∀ rest, pieces (lexeme ++ rest) = .lexeme groups :: pieces rest := by
  obtain ⟨groups, formed, means⟩ := isLexeme.exists_formed
  refine ⟨groups, means, fun rest => ?_⟩
  rw [← means.whole]
  exact formed.pieces rest

theorem pieces_cons {char : Char} {rest : List Char}
    (missing : Groups.match? (char :: rest) = none) :
    pieces (char :: rest) = .noise char :: pieces rest := by
  rw [pieces]
  split
  next found =>
    rw [missing] at found
    cases found
  next => rfl

theorem pieces_induction {Property : List Char → Prop} (nil : Property [])
    (lexeme : ∀ lexeme step rest, Lexeme lexeme step → Property rest → Property (lexeme ++ rest))
    (noise : ∀ char rest, Groups.match? (char :: rest) = none → Property rest →
      Property (char :: rest)) (text : List Char) : Property text := by
  induction length : text.length using Nat.strongRecOn generalizing text with
  | ind size ih =>
      cases found : Groups.match? text with
      | some result =>
          have shorter := Groups.match?_length found
          obtain ⟨step, isLexeme, _, rfl⟩ := Groups.means_of_match? found
          exact lexeme _ step result.2 isLexeme (ih _ (by omega) _ rfl)
      | none =>
          cases text with
          | nil => exact nil
          | cons char rest =>
              simp only [List.length_cons] at length
              exact noise char rest found (ih _ (by omega) _ rfl)

theorem match?_eq_none_of_not_opens {char : Char} (closed : ¬Lexeme.Opens char)
    (rest : List Char) : Groups.match? (char :: rest) = none := by
  cases found : Groups.match? (char :: rest) with
  | none => rfl
  | some result =>
      obtain ⟨step, isLexeme, _, joined⟩ := Groups.means_of_match? found
      obtain ⟨first, tail, whole, opening, _⟩ := isLexeme.opens
      rw [whole] at joined
      cases joined
      exact absurd opening closed

end DateAdjust
