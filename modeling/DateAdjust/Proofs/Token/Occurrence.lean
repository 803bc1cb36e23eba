import DateAdjust.Proofs.Token.Grammar
import DateAdjust.Spec
import Mathlib.Data.List.Forall2

/-! Where the lexemes of a text stand. Going from one leftmost lexeme to the next finds every lexeme
that occurs anywhere in the text. -/

namespace DateAdjust

structure Occurrence where
  start : Nat
  text : List Char
  step : Step
  deriving DecidableEq, Repr

namespace Occurrence

def stop (occurrence : Occurrence) : Nat :=
  occurrence.start + occurrence.text.length

/-- The lexeme occurs in a text whose first character has the place of the origin. -/
def In (occurrence : Occurrence) (origin : Nat) (text : List Char) : Prop :=
  Lexeme occurrence.text occurrence.step ∧ ∃ before after,
    text = before ++ (occurrence.text ++ after) ∧ occurrence.start = origin + before.length

theorem In.start_lt_stop {occurrence : Occurrence} {origin : Nat} {text : List Char}
    (occurs : occurrence.In origin text) : occurrence.start < occurrence.stop := by
  have long := List.length_pos_iff.mpr occurs.1.ne_nil
  simp only [stop]
  omega

end Occurrence

/-- Successive matches: the leftmost lexeme, and then those of the text that is left behind it. -/
inductive LeftmostMatches : Nat → List Char → List Occurrence → Prop
  | done {origin : Nat} {text : List Char} :
      (∀ occurrence : Occurrence, ¬occurrence.In origin text) → LeftmostMatches origin text []
  | next {origin : Nat} {before after : List Char} {first : Occurrence} {later : List Occurrence} :
      Lexeme first.text first.step → first.start = origin + before.length →
      (∀ occurrence : Occurrence, occurrence.In origin (before ++ (first.text ++ after)) →
        first.start ≤ occurrence.start) →
      LeftmostMatches first.stop after later →
      LeftmostMatches origin (before ++ (first.text ++ after)) (first :: later)

namespace LeftmostMatches

theorem in_iff_of_leftmost {origin : Nat} {before after : List Char} {first : Occurrence}
    (isFirst : Lexeme first.text first.step) (place : first.start = origin + before.length)
    (leftmost : ∀ occurrence : Occurrence, occurrence.In origin (before ++ (first.text ++ after)) →
      first.start ≤ occurrence.start) (occurrence : Occurrence) :
    occurrence.In origin (before ++ (first.text ++ after)) ↔
      occurrence = first ∨ occurrence.In first.stop after := by
  constructor
  · intro occurs
    have notBefore := leftmost occurrence occurs
    obtain ⟨isLexeme, front, rest, split, start⟩ := occurs
    have longer : before.length ≤ front.length := by omega
    obtain ⟨between, rfl⟩ : before <+: front :=
      List.prefix_of_prefix_length_le ⟨_, rfl⟩ ⟨_, split.symm⟩ longer
    rw [List.append_assoc] at split
    have inner := List.append_cancel_left split
    rcases isFirst.not_inside isLexeme inner with rfl | behind
    · left
      obtain ⟨sameText, sameStep, _⟩ := isFirst.unique isLexeme inner
      obtain ⟨occurrenceStart, occurrenceText, occurrenceStep⟩ := occurrence
      obtain ⟨firstStart, firstText, firstStep⟩ := first
      simp only [List.append_nil] at start
      simp only [Occurrence.mk.injEq]
      exact ⟨start.trans place.symm, sameText.symm, sameStep.symm⟩
    · right
      obtain ⟨gap, rfl⟩ : first.text <+: between :=
        List.prefix_of_prefix_length_le ⟨_, rfl⟩ ⟨_, inner.symm⟩ behind
      rw [List.append_assoc] at inner
      refine ⟨isLexeme, gap, rest, List.append_cancel_left inner, ?_⟩
      simp only [List.length_append] at start
      simp only [Occurrence.stop]
      omega
  · rintro (rfl | ⟨isLexeme, front, rest, rfl, start⟩)
    · exact ⟨isFirst, before, after, rfl, place⟩
    · refine ⟨isLexeme, before ++ (first.text ++ front), rest, by simp, ?_⟩
      simp only [Occurrence.stop] at start
      simp only [List.length_append]
      omega

theorem mem_iff {origin : Nat} {text : List Char} {found : List Occurrence}
    (leftmost : LeftmostMatches origin text found) (occurrence : Occurrence) :
    occurrence ∈ found ↔ occurrence.In origin text := by
  induction leftmost with
  | done missing => simp [missing occurrence]
  | next isFirst place before _ ih =>
      rw [List.mem_cons, ih, in_iff_of_leftmost isFirst place before]

theorem pairwise {origin : Nat} {text : List Char} {found : List Occurrence}
    (leftmost : LeftmostMatches origin text found) :
    found.Pairwise fun first second => first.stop ≤ second.start := by
  induction leftmost with
  | done => exact List.Pairwise.nil
  | next _ _ _ later ih =>
      refine List.Pairwise.cons ?_ ih
      intro occurrence member
      obtain ⟨_, before, _, _, start⟩ := (later.mem_iff occurrence).mp member
      omega

theorem nodup {origin : Nat} {text : List Char} {found : List Occurrence}
    (leftmost : LeftmostMatches origin text found) : found.Nodup := by
  refine leftmost.pairwise.imp_of_mem ?_
  rintro first second member _ apart rfl
  have long := ((leftmost.mem_iff first).mp member).start_lt_stop
  omega

theorem unique {origin : Nat} {text : List Char} {found others : List Occurrence}
    (leftmost : LeftmostMatches origin text found) (other : LeftmostMatches origin text others) :
    others = found := by
  -- Both lists hold the same occurrences, and both are sorted by place.
  have sameMembers : others.Perm found := by
    rw [List.perm_ext_iff_of_nodup other.nodup leftmost.nodup]
    intro occurrence
    rw [other.mem_iff, leftmost.mem_iff]
  refine List.Perm.eq_of_pairwise ?_ other.pairwise leftmost.pairwise sameMembers
  intro first second firstMember secondMember before after
  have firstLong := ((other.mem_iff first).mp firstMember).start_lt_stop
  have secondLong := ((leftmost.mem_iff second).mp secondMember).start_lt_stop
  omega

end LeftmostMatches

namespace Spec

def steps (text : List Char) : List Step :=
  (pieces text).filterMap fun
    | .noise _ => none
    | .lexeme groups => (groups.step 0).toOption

@[simp]
theorem steps_nil : steps [] = [] := by
  rw [steps, pieces_nil]
  rfl

theorem steps_append {lexeme : List Char} {step : Step} (isLexeme : Lexeme lexeme step)
    (rest : List Char) : steps (lexeme ++ rest) = step :: steps rest := by
  obtain ⟨groups, means, cut⟩ := pieces_append isLexeme
  simp only [steps, cut, List.filterMap_cons, means.step]
  rfl

theorem steps_cons {char : Char} {rest : List Char}
    (missing : Groups.match? (char :: rest) = none) : steps (char :: rest) = steps rest := by
  rw [steps, pieces_cons missing]
  rfl

end Spec

theorem LeftmostMatches.cons_noise {origin : Nat} {char : Char} {rest : List Char}
    {found : List Occurrence} (missing : Groups.match? (char :: rest) = none)
    (leftmost : LeftmostMatches (origin + 1) rest found) :
    LeftmostMatches origin (char :: rest) found := by
  have inside : ∀ occurrence : Occurrence, occurrence.In origin (char :: rest) →
      occurrence.In (origin + 1) rest := by
    rintro occurrence ⟨isLexeme, before, after, split, start⟩
    cases before with
    | nil =>
        rw [List.nil_append] at split
        rw [split] at missing
        exact absurd missing (isLexeme.match?_ne_none after)
    | cons first before =>
        simp only [List.cons_append, List.cons.injEq] at split
        refine ⟨isLexeme, before, after, split.2, ?_⟩
        rw [List.length_cons] at start
        omega
  cases leftmost with
  | done none => exact .done fun occurrence occurs => none occurrence (inside occurrence occurs)
  | @next _ before after first later isFirst place least behind =>
      change LeftmostMatches origin ((char :: before) ++ (first.text ++ after)) (first :: later)
      refine .next isFirst ?_ ?_ behind
      · rw [List.length_cons]
        omega
      · exact fun occurrence occurs => least occurrence (inside occurrence occurs)

theorem exists_leftmostMatches (origin : Nat) (text : List Char) :
    ∃ found, LeftmostMatches origin text found ∧ found.map Occurrence.step = Spec.steps text := by
  induction text using pieces_induction generalizing origin with
  | nil =>
      refine ⟨[], .done ?_, Spec.steps_nil.symm⟩
      rintro occurrence ⟨isLexeme, before, after, split, _⟩
      obtain ⟨empty, _⟩ := List.append_eq_nil_iff.mp (List.append_eq_nil_iff.mp split.symm).2
      exact isLexeme.ne_nil empty
  | lexeme lexeme step rest isLexeme ih =>
      let first : Occurrence := { start := origin, text := lexeme, step }
      obtain ⟨later, leftmost, sameSteps⟩ := ih first.stop
      refine ⟨first :: later, ?_, ?_⟩
      · change LeftmostMatches origin ([] ++ (first.text ++ rest)) (first :: later)
        refine .next isLexeme rfl ?_ leftmost
        rintro occurrence ⟨_, before, _, _, start⟩
        exact Nat.le.intro start.symm
      · rw [Spec.steps_append isLexeme, ← sameSteps]
        rfl
  | noise char rest missing ih =>
      obtain ⟨found, leftmost, sameSteps⟩ := ih (origin + 1)
      exact ⟨found, .cons_noise missing leftmost, by rw [Spec.steps_cons missing, sameSteps]⟩

/-- A token holds a step when each of its numbers is the nearest one that the token has room for:
a set value of 32 bits, or an amount of 64 bits with a sign. -/
inductive Token.Holds : Token → Step → Prop
  | zeroTime : Holds .zeroTime .zeroTime
  | setLast (unit : TimeUnit) : Holds (.set unit .last) (.setLast unit)
  | setTo (unit : TimeUnit) {value : UInt32} {number : Nat} :
      value.toNat = min number (UInt32.size - 1) →
      Holds (.set unit (.cardinal value)) (.setTo unit number)
  | shift (unit : TimeUnit) {amount : Int64} {number : Int} :
      amount.toInt = max Int64.minValue.toInt (min number Int64.maxValue.toInt) →
      Holds (.shift unit amount) (.shift unit number)

theorem Step.token_holds (step : Step) : step.token.Holds step := by
  cases step with
  | zeroTime => exact .zeroTime
  | setLast unit => exact .setLast unit
  | setTo unit number =>
      refine .setTo unit ?_
      have size : UInt32.size = 4294967296 := rfl
      simp only [UInt32.ofNatClamp]
      split
      · rw [UInt32.toNat_ofNatLT]
        omega
      · rw [UInt32.toNat_ofNatLT]
        omega
  | shift unit number =>
      refine .shift unit ?_
      have least := Int64.toInt_minValue
      have greatest := Int64.toInt_maxValue
      simp only [Int64.ofIntClamp]
      split
      · split
        · rw [Int64.toInt_ofIntLE]
          omega
        · omega
      · omega

namespace Token

theorem scan_lexeme {strictness : Strictness} {start : Nat} {gap lexeme : List Char}
    {groups : Groups} {step : Step} (means : groups.Means lexeme step)
    (checked : checkGap strictness start gap = .ok ()) (later : List Piece) :
    scan strictness start gap (.lexeme groups :: later) =
      (scan strictness (start + Text.byteLength gap + Text.byteLength lexeme) [] later).map
        (step.token :: ·) := by
  have token : groups.token (start + Text.byteLength gap) = .ok step.token := by
    rw [Groups.token, means.step]
    rfl
  rw [scan, checked, ← means.whole]
  change groups.token _ >>= _ = _
  rw [token]
  rfl

theorem scan_lenient (start : Nat) (gap text : List Char) :
    scan .lenient start gap (pieces text) = .ok ((Spec.steps text).map Step.token) := by
  induction text using pieces_induction generalizing start gap with
  | nil =>
      rw [pieces_nil, Spec.steps_nil]
      rfl
  | lexeme lexeme step rest isLexeme ih =>
      obtain ⟨groups, means, cut⟩ := pieces_append isLexeme
      rw [cut, scan_lexeme means rfl, ih, Spec.steps_append isLexeme]
      rfl
  | noise char rest missing ih =>
      rw [pieces_cons missing, scan, ih, Spec.steps_cons missing]

end Token

theorem Spec.read_lenient (text : List Char) :
    read .lenient text = .ok { tokens := (steps text).map Step.token } := by
  rw [read, Token.scan_lenient]
  rfl

/-- A lenient reading has one token for every lexeme that occurs anywhere in the text, from left to
right. The lexemes do not overlap, so going through the text from match to match finds them all. -/
theorem Spec.ofString_lenient (text : String) :
    ∃ found : List Occurrence,
      (∀ others, LeftmostMatches 0 text.toList others ↔ others = found) ∧
      (∀ occurrence : Occurrence, occurrence ∈ found ↔ occurrence.In 0 text.toList) ∧
      (found.Pairwise fun first second => first.stop ≤ second.start) ∧
      ∃ tokens, Spec.ofString text = .ok { tokens } ∧
        List.Forall₂ (fun token occurrence => token.Holds occurrence.step) tokens found := by
  obtain ⟨found, leftmost, sameSteps⟩ := exists_leftmostMatches 0 text.toList
  refine ⟨found, ?_, leftmost.mem_iff, leftmost.pairwise, _, read_lenient text.toList, ?_⟩
  · intro others
    refine ⟨leftmost.unique, ?_⟩
    rintro rfl
    exact leftmost
  · rw [← sameSteps, List.map_map, List.forall₂_map_left_iff]
    exact List.forall₂_same.mpr fun occurrence _ => occurrence.step.token_holds

end DateAdjust
