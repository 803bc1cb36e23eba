import DateAdjust.Evaluate
import DateAdjust.Proofs.Token.Occurrence
import Mathlib.Data.List.TakeWhile

/-! A strict reading accepts a text that is put together from lexemes and blanks, and rejects any
other at the first place where it is neither. -/

namespace DateAdjust

/-- A text spells steps when it has their lexemes in order and nothing but blanks beside them. -/
inductive Spells : List Char → List Step → Prop
  | nil : Spells [] []
  | blank {char : Char} {rest : List Char} {steps : List Step} :
      Text.isBlank char → Spells rest steps → Spells (char :: rest) steps
  | lexeme {lexeme rest : List Char} {step : Step} {steps : List Step} :
      Lexeme lexeme step → Spells rest steps → Spells (lexeme ++ rest) (step :: steps)

theorem not_opens_of_isBlank {char : Char} (blank : Text.isBlank char) : ¬Lexeme.Opens char := by
  rintro (rfl | rfl | rfl | rfl) <;> exact absurd blank (by decide)

theorem pieces_blank {char : Char} (blank : Text.isBlank char) (rest : List Char) :
    pieces (char :: rest) = .noise char :: pieces rest :=
  pieces_cons (match?_eq_none_of_not_opens (not_opens_of_isBlank blank) rest)

namespace Token

theorem checkGap_blank {gap : List Char} (blank : ∀ char ∈ gap, Text.isBlank char)
    (strictness : Strictness) (start : Nat) : checkGap strictness start gap = .ok () := by
  have nothing : gap.dropWhile Text.isBlank = [] := List.dropWhile_eq_nil_iff.mpr blank
  cases strictness with
  | lenient => rfl
  | strict => simp only [checkGap, nothing]

theorem checkGap_visible {blanks : List Char} (blank : ∀ char ∈ blanks, Text.isBlank char)
    {char : Char} (visible : Text.isBlank char = false) (start : Nat) (more : List Char) :
    checkGap .strict start (blanks ++ char :: more) =
      .error (.malformedSpec (start + Text.byteLength blanks)
        (String.ofList (Text.trimEnd (char :: more)))) := by
  have stops : ¬Text.isBlank char := by rw [visible]; decide
  have rest : (blanks ++ char :: more).dropWhile Text.isBlank = char :: more := by
    rw [List.dropWhile_append_of_pos blank, List.dropWhile_cons_of_neg stops]
  have front : (blanks ++ char :: more).takeWhile Text.isBlank = blanks := by
    rw [List.takeWhile_append_of_pos blank, List.takeWhile_cons_of_neg stops, List.append_nil]
  simp only [checkGap, Text.trim, Text.trimStart, rest, front]

end Token

namespace Spells

theorem scan {text : List Char} {steps : List Step} (spells : Spells text steps)
    (strictness : Strictness) (start : Nat) {gap : List Char}
    (blank : ∀ char ∈ gap, Text.isBlank char) :
    Token.scan strictness start gap (pieces text) = .ok (steps.map Step.token) := by
  induction spells generalizing start gap with
  | nil =>
      rw [pieces_nil, Token.scan, Token.checkGap_blank blank]
      rfl
  | @blank char rest steps isBlank _ ih =>
      rw [pieces_blank isBlank, Token.scan]
      refine ih start ?_
      simpa [or_imp, forall_and] using ⟨blank, isBlank⟩
  | @lexeme lexeme rest step steps isLexeme _ ih =>
      obtain ⟨groups, means, cut⟩ := pieces_append isLexeme
      rw [cut, Token.scan_lexeme means (Token.checkGap_blank blank strictness start),
        ih _ (List.forall_mem_nil _)]
      rfl

theorem read {text : List Char} {steps : List Step} (spells : Spells text steps)
    (strictness : Strictness) :
    Spec.read strictness text = .ok { tokens := steps.map Step.token } := by
  rw [Spec.read, spells.scan strictness 0 (List.forall_mem_nil _)]
  rfl

end Spells

/-- A text falls into a part before its first offence, the offending fragment, and blanks and
further text behind it. -/
structure FirstOffence (before fragment blanks after : List Char) : Prop where
  before_accepted : ∃ spec, Spec.read .strict before = .ok spec
  fragment_ne_nil : fragment ≠ []
  head_visible : ∀ char ∈ fragment.head?, Text.isBlank char = false
  last_visible : ∀ char ∈ fragment.getLast?, Text.isBlank char = false
  no_token : Spec.read .lenient fragment = .ok { tokens := [] }
  blanks_blank : ∀ char ∈ blanks, Text.isBlank char
  end_or_lexeme : after = [] ∨ ∃ lexeme step rest, Lexeme lexeme step ∧ after = lexeme ++ rest

def Piece.noiseRun : List Piece → List Char
  | noise char :: later => char :: noiseRun later
  | _ => []

theorem noiseRun_spec (text : List Char) :
    ∃ after, text = Piece.noiseRun (pieces text) ++ after ∧
      (after = [] ∨ ∃ lexeme step rest, Lexeme lexeme step ∧ after = lexeme ++ rest) ∧
      ∀ front back, Piece.noiseRun (pieces text) = front ++ back → back ≠ [] →
        Groups.match? (back ++ after) = none := by
  induction text using pieces_induction with
  | nil => exact ⟨[], by simp [Piece.noiseRun], .inl rfl, by simp [Piece.noiseRun]⟩
  | lexeme lexeme step rest isLexeme _ =>
      obtain ⟨groups, _, cut⟩ := pieces_append isLexeme
      rw [cut]
      refine ⟨lexeme ++ rest, rfl, .inr ⟨lexeme, step, rest, isLexeme, rfl⟩, ?_⟩
      intro front back split notEmpty
      exact absurd (List.append_eq_nil_iff.mp split.symm).2 notEmpty
  | noise char rest missing ih =>
      obtain ⟨after, joined, ends, silent⟩ := ih
      rw [pieces_cons missing]
      refine ⟨after, congrArg (char :: ·) joined, ends, ?_⟩
      intro front back split notEmpty
      -- A lexeme would begin at this character, where none was found, or further on in the run.
      cases front with
      | nil =>
          rw [List.nil_append] at split
          rw [← split, Piece.noiseRun, List.cons_append, ← joined]
          exact missing
      | cons first front =>
          simp only [Piece.noiseRun, List.cons_append, List.cons.injEq] at split
          exact silent front back split.2 notEmpty

theorem steps_eq_nil {text : List Char}
    (none : ∀ before lexeme step after, text = before ++ (lexeme ++ after) → ¬Lexeme lexeme step) :
    Spec.steps text = [] := by
  have nothing : LeftmostMatches 0 text [] := by
    refine .done ?_
    rintro occurrence ⟨isLexeme, before, after, split, _⟩
    exact none before occurrence.text occurrence.step after split isLexeme
  obtain ⟨found, leftmost, sameSteps⟩ := exists_leftmostMatches 0 text
  rw [← sameSteps, nothing.unique leftmost]
  rfl

theorem Token.scan_visible {blanks : List Char} (blank : ∀ char ∈ blanks, Text.isBlank char)
    {char : Char} (visible : Text.isBlank char = false) (start : Nat) (more : List Char)
    (later : List Piece) :
    scan .strict start (blanks ++ char :: more) later =
      .error (.malformedSpec (start + Text.byteLength blanks)
        (String.ofList (Text.trimEnd (char :: (more ++ Piece.noiseRun later))))) := by
  induction later generalizing more with
  | nil =>
      rw [scan, checkGap_visible blank visible, Piece.noiseRun, List.append_nil]
      · rfl
      · simp
  | cons piece later ih =>
      cases piece with
      | noise next =>
          rw [scan, List.append_assoc, List.cons_append, ih, Piece.noiseRun, List.append_assoc,
            List.singleton_append]
      | lexeme groups =>
          rw [scan, checkGap_visible blank visible, Piece.noiseRun, List.append_nil]
          · rfl
          · simp

theorem spells_or_offends (start : Nat) {gap : List Char}
    (blank : ∀ char ∈ gap, Text.isBlank char) (text : List Char) :
    (∃ steps, Spells text steps) ∨ ∃ before steps char rest, text = before ++ char :: rest ∧
      Spells before steps ∧ Groups.match? (char :: rest) = none ∧ Text.isBlank char = false ∧
      Token.scan .strict start gap (pieces text) =
        .error (.malformedSpec (start + Text.byteLength gap + Text.byteLength before)
          (String.ofList (Text.trimEnd (char :: Piece.noiseRun (pieces rest))))) := by
  induction text using pieces_induction generalizing start gap with
  | nil => exact .inl ⟨[], .nil⟩
  | lexeme lexeme step rest isLexeme ih =>
      obtain ⟨groups, means, cut⟩ := pieces_append isLexeme
      rw [cut, Token.scan_lexeme means (Token.checkGap_blank blank .strict start)]
      rcases ih (start + Text.byteLength gap + Text.byteLength lexeme) (List.forall_mem_nil _) with
        ⟨steps, spells⟩ | offends
      · exact .inl ⟨step :: steps, .lexeme isLexeme spells⟩
      · obtain ⟨before, steps, char, behind, rfl, spells, missing, visible, reported⟩ := offends
        refine .inr ⟨lexeme ++ before, step :: steps, char, behind, by rw [List.append_assoc],
          .lexeme isLexeme spells, missing, visible, ?_⟩
        rw [reported, Text.byteLength_append, Text.byteLength_nil, Nat.add_zero, Nat.add_assoc]
        rfl
  | noise char rest missing ih =>
      rw [pieces_cons missing, Token.scan]
      -- A blank goes into the gap, which stays blank; any other character is the first offence.
      cases visible : Text.isBlank char with
      | false =>
          refine .inr ⟨[], [], char, rest, rfl, .nil, missing, visible, ?_⟩
          rw [Token.scan_visible blank visible, Text.byteLength_nil, Nat.add_zero, List.nil_append]
      | true =>
          have stillBlank : ∀ next ∈ gap ++ [char], Text.isBlank next := by
            simpa [or_imp, forall_and] using ⟨blank, visible⟩
          rcases ih start stillBlank with ⟨steps, spells⟩ | offends
          · exact .inl ⟨steps, .blank visible spells⟩
          · obtain ⟨before, steps, first, behind, rfl, spells, silent, shown, reported⟩ := offends
            refine .inr ⟨char :: before, steps, first, behind, rfl, .blank visible spells, silent,
              shown, ?_⟩
            rw [reported, Text.byteLength_append, Text.byteLength_cons, Text.byteLength_cons,
              Text.byteLength_nil, Nat.add_zero, Nat.add_assoc, Nat.add_assoc, Nat.add_assoc]

theorem firstOffence_noise {before : List Char} {steps : List Step} (spells : Spells before steps)
    {char : Char} {rest : List Char} (missing : Groups.match? (char :: rest) = none)
    (visible : Text.isBlank char = false) :
    ∃ blanks after, char :: rest =
        Text.trimEnd (char :: Piece.noiseRun (pieces rest)) ++ (blanks ++ after) ∧
      FirstOffence before (Text.trimEnd (char :: Piece.noiseRun (pieces rest))) blanks after := by
  obtain ⟨after, joined, ends, silent⟩ := noiseRun_spec (char :: rest)
  rw [pieces_cons missing] at joined silent
  simp only [Piece.noiseRun] at joined silent
  obtain ⟨blanks, split, blank⟩ := Text.trimEnd_append (char :: Piece.noiseRun (pieces rest))
  obtain ⟨tail, kept⟩ := Text.trimEnd_cons visible (Piece.noiseRun (pieces rest))
  have noSteps : Spec.steps (Text.trimEnd (char :: Piece.noiseRun (pieces rest))) = [] := by
    apply steps_eq_nil
    intro before lexeme step behind inside isLexeme
    have notFound := silent before (lexeme ++ behind ++ blanks) (by
      rw [split, inside, List.append_assoc]) (by
      simp [isLexeme.ne_nil])
    rw [List.append_assoc, List.append_assoc] at notFound
    exact isLexeme.match?_ne_none _ notFound
  refine ⟨blanks, after, ?_, ?_⟩
  · rw [← List.append_assoc, ← split]
    exact joined
  · exact {
      before_accepted := ⟨_, spells.read .strict⟩
      fragment_ne_nil := by
        rw [kept]
        exact List.cons_ne_nil char tail
      head_visible := by
        rw [kept]
        rintro first same
        cases same
        exact visible
      last_visible := Text.isBlank_getLast?_trimEnd _
      no_token := by rw [Spec.read_lenient, noSteps]; rfl
      blanks_blank := blank
      end_or_lexeme := ends }

theorem evaluate_of_rejected {State : Type} [Calendar State] (origin : State) {text : String}
    {strictness : Strictness} {error : AdjustError} (notEmpty : text ≠ "")
    (rejected : Spec.ofString text strictness = .error error) :
    evaluate origin text strictness = .error error := by
  have visible : text.isEmpty = false := by
    cases isEmpty : text.isEmpty with
    | false => rfl
    | true => exact absurd (String.isEmpty_iff.mp isEmpty) notEmpty
  rw [evaluate, visible, rejected]
  rfl

/-- A strict reading takes a text that spells steps as a lenient reading does, and rejects every
other text at its first offence, whatever the origin of an evaluation. -/
theorem Spec.ofString_strict (text : String) :
    ((∃ steps, Spells text.toList steps) ∧
      ∃ spec, Spec.ofString text .strict = .ok spec ∧ Spec.ofString text .lenient = .ok spec) ∨
    (¬∃ steps, Spells text.toList steps) ∧ ∃ before fragment blanks after : String,
      text = before ++ (fragment ++ (blanks ++ after)) ∧
      FirstOffence before.toList fragment.toList blanks.toList after.toList ∧
      Spec.ofString text .strict = .error (.malformedSpec before.utf8ByteSize fragment) ∧
      ∀ {State : Type} [Calendar State] (origin : State), evaluate origin text .strict =
        .error (.malformedSpec before.utf8ByteSize fragment) := by
  rcases spells_or_offends 0 (List.forall_mem_nil _) text.toList with ⟨steps, spells⟩ | offends
  · exact .inl ⟨⟨steps, spells⟩, _, spells.read .strict, spells.read .lenient⟩
  · obtain ⟨before, steps, char, rest, split, spells, missing, visible, reported⟩ := offends
    obtain ⟨blanks, after, joined, offence⟩ := firstOffence_noise spells missing visible
    generalize Text.trimEnd (char :: Piece.noiseRun (pieces rest)) = fragment at *
    have rejected : Spec.ofString text .strict =
        .error (.malformedSpec (Text.byteLength before) (String.ofList fragment)) := by
      rw [Spec.ofString, Spec.read, reported, Text.byteLength_nil, Nat.zero_add]
      rfl
    have notEmpty : text ≠ "" := by
      rintro rfl
      simp at split
    right
    refine ⟨?_, String.ofList before, String.ofList fragment, String.ofList blanks,
      String.ofList after, ?_, ?_, ?_, ?_⟩
    · rintro ⟨steps, spells⟩
      rw [spells.scan .strict 0 (List.forall_mem_nil _)] at reported
      cases reported
    · rw [← String.ofList_append, ← String.ofList_append, ← String.ofList_append, ← joined, ← split,
        String.ofList_toList]
    · simpa only [String.toList_ofList] using offence
    · rw [Text.utf8ByteSize_ofList]
      exact rejected
    · intro State _ origin
      rw [Text.utf8ByteSize_ofList]
      exact evaluate_of_rejected origin notEmpty rejected

end DateAdjust
