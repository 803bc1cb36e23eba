import DateAdjust.Token.Step

/-! Matches of tokens and the groups of each match: those of the shapes that the token does not have
are missing. The step of a match is put together from its groups. -/

namespace DateAdjust

structure Groups where
  whole : List Char
  zero : Option (List Char) := none
  value : Option (List Char) := none
  setUnit : Option (List Char) := none
  sign : Option (List Char) := none
  amount : Option (List Char) := none
  shiftUnit : Option (List Char) := none
  deriving DecidableEq, Repr

namespace Groups

def ofZero : Groups where
  whole := [Token.zeroLetter]
  zero := some [Token.zeroLetter]

def ofSet (value : List Char) (letter : Char) : Groups where
  whole := Token.setSign :: (value ++ [letter])
  value := some value
  setUnit := some [letter]

def ofShift (sign : Char) (amount : List Char) (letter : Char) : Groups where
  whole := sign :: (amount ++ [letter])
  sign := some [sign]
  amount := some amount
  shiftUnit := some [letter]

def matchCount? (text : List Char) : Option (List Char × Char × List Char) :=
  match text.dropWhile Char.isDigit with
  | [] => none
  | letter :: rest =>
    let digits := text.takeWhile Char.isDigit
    if digits ≠ [] ∧ letter ∈ TimeUnit.letters then some (digits, letter, rest) else none

def matchValue? : List Char → Option (List Char × Char × List Char)
  | first :: letter :: rest =>
    if first = Token.lastLetter ∧ letter ∈ TimeUnit.letters then some ([first], letter, rest)
    else matchCount? (first :: letter :: rest)
  | _ => none

def match? : List Char → Option (Groups × List Char)
  | [] => none
  | first :: text =>
    if first = Token.zeroLetter then some (ofZero, text)
    else if first = Token.setSign then
      (matchValue? text).map fun (value, letter, rest) => (ofSet value letter, rest)
    else if first = Token.forwardSign ∨ first = Token.backwardSign then
      (matchCount? text).map fun (amount, letter, rest) => (ofShift first amount letter, rest)
    else none

def unitOf (group : List Char) : Except AdjustError TimeUnit :=
  TimeUnit.ofLetter (group.headD (Char.ofNat 0))

/-- The step that a match at a byte offset stands for, with its exact number. -/
def step (offset : Nat) (groups : Groups) : Except AdjustError Step :=
  if groups.zero.isSome then .ok .zeroTime
  else
    match groups.value, groups.setUnit with
    | some value, some unit => do
      let unit ← unitOf unit
      if value.head? = some Token.lastLetter then return .setLast unit
      else return .setTo unit (Nat.ofDigitChars 10 value 0)
    | _, _ =>
      match groups.sign, groups.amount, groups.shiftUnit with
      | some sign, some amount, some unit => do
        let unit ← unitOf unit
        let number := Nat.ofDigitChars 10 amount 0
        if sign.head? = some Token.backwardSign then return .shift unit (-number)
        else return .shift unit number
      | _, _, _ => .error (.malformedSpec offset (String.ofList groups.whole))

def token (offset : Nat) (groups : Groups) : Except AdjustError Token := do
  return (← groups.step offset).token

inductive Formed : Groups → Prop
  | ofZero : Formed ofZero
  | ofLast {letter : Char} :
      letter ∈ TimeUnit.letters → Formed (ofSet [Token.lastLetter] letter)
  | ofCardinal {value : List Char} {letter : Char} : value ≠ [] →
      (∀ char ∈ value, char.isDigit) → letter ∈ TimeUnit.letters → Formed (ofSet value letter)
  | ofShift {sign : Char} {amount : List Char} {letter : Char} :
      sign = Token.forwardSign ∨ sign = Token.backwardSign → amount ≠ [] →
      (∀ char ∈ amount, char.isDigit) → letter ∈ TimeUnit.letters →
      Formed (ofShift sign amount letter)

theorem isDigit_of_mem_letters {letter : Char} (member : letter ∈ TimeUnit.letters) :
    letter.isDigit = false := by
  obtain ⟨unit, rfl⟩ := TimeUnit.mem_letters_iff.mp member
  cases unit <;> decide

theorem matchCount?_eq_some_iff {text digits rest : List Char} {letter : Char} :
    matchCount? text = some (digits, letter, rest) ↔ digits ≠ [] ∧
      (∀ char ∈ digits, char.isDigit) ∧ letter ∈ TimeUnit.letters ∧
      text = digits ++ letter :: rest := by
  constructor
  · intro found
    simp only [matchCount?] at found
    split at found
    next => cases found
    next first behind dropped =>
      split at found
      next isCount =>
        cases found
        refine ⟨isCount.1, List.all_eq_true.mp List.all_takeWhile, isCount.2, ?_⟩
        rw [← dropped, List.takeWhile_append_dropWhile]
      next => cases found
  · rintro ⟨notEmpty, digits, isLetter, rfl⟩
    have notDigit : ¬letter.isDigit := by simp [isDigit_of_mem_letters isLetter]
    rw [matchCount?, List.dropWhile_append_of_pos digits, List.dropWhile_cons_of_neg notDigit,
      List.takeWhile_append_of_pos digits, List.takeWhile_cons_of_neg notDigit]
    simp only [List.append_nil]
    exact if_pos ⟨notEmpty, isLetter⟩

theorem matchValue?_eq_some_iff {text value rest : List Char} {letter : Char} :
    matchValue? text = some (value, letter, rest) ↔
      (value = [Token.lastLetter] ∨ value ≠ [] ∧ ∀ char ∈ value, char.isDigit) ∧
      letter ∈ TimeUnit.letters ∧ text = value ++ letter :: rest := by
  constructor
  · intro found
    simp only [matchValue?] at found
    split at found
    next first second behind =>
      split at found
      next isLast =>
        cases found
        exact ⟨.inl (by rw [isLast.1]), isLast.2, rfl⟩
      next =>
        obtain ⟨notEmpty, digits, isLetter, joined⟩ := matchCount?_eq_some_iff.mp found
        exact ⟨.inr ⟨notEmpty, digits⟩, isLetter, joined⟩
    next => cases found
  · rintro ⟨rfl | ⟨notEmpty, digits⟩, isLetter, rfl⟩
    · exact if_pos ⟨rfl, isLetter⟩
    · have counted : matchCount? (value ++ letter :: rest) = some (value, letter, rest) :=
        matchCount?_eq_some_iff.mpr ⟨notEmpty, digits, isLetter, rfl⟩
      obtain ⟨first, behind, rfl⟩ := List.exists_cons_of_ne_nil notEmpty
      have notLast : first ≠ Token.lastLetter := by
        rintro rfl
        exact absurd (digits _ List.mem_cons_self) (by decide)
      rw [← counted]
      cases behind <;> exact if_neg fun isLast => notLast isLast.1

theorem formed_of_match? {text rest : List Char} {groups : Groups}
    (found : match? text = some (groups, rest)) :
    groups.Formed ∧ text = groups.whole ++ rest := by
  cases text with
  | nil => cases found
  | cons first tail =>
    simp only [match?] at found
    split at found
    next isZero =>
      cases found
      exact ⟨.ofZero, by rw [isZero]; rfl⟩
    split at found
    next isSet =>
      obtain ⟨⟨value, letter, after⟩, valueFound, same⟩ := Option.map_eq_some_iff.mp found
      cases same
      obtain ⟨isValue, isLetter, rfl⟩ := matchValue?_eq_some_iff.mp valueFound
      refine ⟨?_, by rw [isSet]; simp [Groups.ofSet]⟩
      rcases isValue with rfl | ⟨notEmpty, digits⟩
      · exact .ofLast isLetter
      · exact .ofCardinal notEmpty digits isLetter
    split at found
    next isSign =>
      obtain ⟨⟨amount, letter, after⟩, countFound, same⟩ := Option.map_eq_some_iff.mp found
      cases same
      obtain ⟨notEmpty, digits, isLetter, rfl⟩ := matchCount?_eq_some_iff.mp countFound
      exact ⟨.ofShift isSign notEmpty digits isLetter, by simp [Groups.ofShift]⟩
    next => cases found

theorem match?_ofSet {value rest : List Char} {letter : Char}
    (found : matchValue? (value ++ letter :: rest) = some (value, letter, rest)) :
    match? ((ofSet value letter).whole ++ rest) = some (ofSet value letter, rest) := by
  have joined : (ofSet value letter).whole ++ rest =
      Token.setSign :: (value ++ letter :: rest) := by simp [ofSet]
  rw [joined, match?, if_neg (by decide), if_pos rfl, found]
  rfl

theorem match?_ofShift {sign : Char} {amount rest : List Char} {letter : Char}
    (isSign : sign = Token.forwardSign ∨ sign = Token.backwardSign)
    (found : matchCount? (amount ++ letter :: rest) = some (amount, letter, rest)) :
    match? ((ofShift sign amount letter).whole ++ rest) =
      some (ofShift sign amount letter, rest) := by
  have notZero : sign ≠ Token.zeroLetter := by
    rcases isSign with rfl | rfl <;> decide
  have notSet : sign ≠ Token.setSign := by
    rcases isSign with rfl | rfl <;> decide
  have joined : (ofShift sign amount letter).whole ++ rest =
      sign :: (amount ++ letter :: rest) := by simp [ofShift]
  rw [joined, match?, if_neg notZero, if_neg notSet, if_pos isSign, found]
  rfl

theorem Formed.match? {groups : Groups} (formed : groups.Formed) (rest : List Char) :
    match? (groups.whole ++ rest) = some (groups, rest) := by
  cases formed with
  | ofZero => rfl
  | ofLast isLetter =>
      exact match?_ofSet (matchValue?_eq_some_iff.mpr ⟨.inl rfl, isLetter, rfl⟩)
  | ofCardinal notEmpty digits isLetter =>
      exact match?_ofSet
        (matchValue?_eq_some_iff.mpr ⟨.inr ⟨notEmpty, digits⟩, isLetter, rfl⟩)
  | ofShift isSign notEmpty digits isLetter =>
      exact match?_ofShift isSign
        (matchCount?_eq_some_iff.mpr ⟨notEmpty, digits, isLetter, rfl⟩)

theorem Formed.whole_ne_nil {groups : Groups} (formed : groups.Formed) : groups.whole ≠ [] := by
  cases formed <;> exact List.cons_ne_nil _ _

theorem match?_length {text rest : List Char} {groups : Groups}
    (found : match? text = some (groups, rest)) : rest.length < text.length := by
  obtain ⟨formed, rfl⟩ := formed_of_match? found
  have positive := List.length_pos_iff.mpr formed.whole_ne_nil
  simp only [List.length_append]
  omega

end Groups

end DateAdjust
