import DateAdjust.Proofs.Spec.RoundTrip
import DateAdjust.Proofs.Timestamp.Validity

/-! Specs joined to one text. No lexeme reaches over the joint unless the second text begins with a
character that can stand within a lexeme, so the joined text has the tokens of both. -/

namespace DateAdjust

/-- The text is empty or begins with a character that no lexeme has behind its first one. -/
def BeginsApart (text : List Char) : Prop :=
  ∀ char ∈ text.head?, ¬Lexeme.Continues char

section Joined

variable {front back : List Char}

theorem match?_joined_eq_none (apart : BeginsApart back) (notEmpty : front ≠ [])
    (missing : Groups.match? front = none) : Groups.match? (front ++ back) = none := by
  have noLexeme : ∀ lexeme step rest, Lexeme lexeme step → front ≠ lexeme ++ rest := by
    rintro lexeme step rest isLexeme rfl
    exact isLexeme.match?_ne_none rest missing
  cases found : Groups.match? (front ++ back) with
  | none => rfl
  | some result =>
      obtain ⟨step, isLexeme, _, joined⟩ := Groups.means_of_match? found
      generalize result.1.whole = lexeme at joined isLexeme
      rcases List.append_eq_append_iff.mp joined with ⟨middle, rfl, split⟩ | ⟨middle, split, _⟩
      · cases middle with
        | nil =>
            rw [List.append_nil] at isLexeme
            exact absurd (List.append_nil front).symm (noLexeme front _ [] isLexeme)
        | cons char middle =>
            -- The lexeme would go on with the first character of the back.
            obtain ⟨first, tail, rfl⟩ := List.exists_cons_of_ne_nil notEmpty
            have continues := isLexeme.continues_of_mem_tail char (by simp)
            exact absurd continues (apart char (by rw [split]; rfl))
      · exact absurd split (noLexeme lexeme _ middle isLexeme)

theorem pieces_joined (apart : BeginsApart back) :
    pieces (front ++ back) = pieces front ++ pieces back := by
  induction front using pieces_induction with
  | nil => rw [pieces_nil, List.nil_append, List.nil_append]
  | lexeme lexeme step rest isLexeme ih =>
      obtain ⟨groups, _, cut⟩ := pieces_append isLexeme
      rw [List.append_assoc, cut, cut, ih, List.cons_append]
  | noise char rest missing ih =>
      have stillMissing := match?_joined_eq_none apart (List.cons_ne_nil char rest) missing
      rw [List.cons_append] at stillMissing ⊢
      rw [pieces_cons stillMissing, pieces_cons missing, ih, List.cons_append]

theorem steps_joined (apart : BeginsApart back) :
    Spec.steps (front ++ back) = Spec.steps front ++ Spec.steps back := by
  simp only [Spec.steps, pieces_joined apart, List.filterMap_append]

end Joined

theorem exists_spells_iff {text : List Char} :
    (∃ steps, Spells text steps) ↔ ∀ char, Piece.noise char ∈ pieces text → Text.isBlank char := by
  constructor
  · rintro ⟨steps, spells⟩
    induction spells with
    | nil => simp
    | blank blank _ ih =>
        rw [pieces_blank blank]
        simpa [blank] using ih
    | lexeme isLexeme _ ih =>
        obtain ⟨groups, _, cut⟩ := pieces_append isLexeme
        rw [cut]
        simpa using ih
  · intro blank
    induction text using pieces_induction with
    | nil => exact ⟨[], .nil⟩
    | lexeme lexeme step rest isLexeme ih =>
        obtain ⟨groups, _, cut⟩ := pieces_append isLexeme
        rw [cut] at blank
        obtain ⟨steps, spells⟩ := ih fun char member => blank char (List.mem_cons_of_mem _ member)
        exact ⟨step :: steps, .lexeme isLexeme spells⟩
    | noise char rest missing ih =>
        rw [pieces_cons missing] at blank
        obtain ⟨steps, spells⟩ := ih fun char member => blank char (List.mem_cons_of_mem _ member)
        exact ⟨steps, .blank (blank char List.mem_cons_self) spells⟩

namespace Spec

theorem accepted_iff {text : String} :
    (∃ spec, ofString text .strict = .ok spec) ↔ ∃ steps, Spells text.toList steps := by
  constructor
  · rintro ⟨spec, accepted⟩
    rcases spells_or_offends 0 (List.forall_mem_nil _) text.toList with spells | offends
    · exact spells
    · obtain ⟨_, _, _, _, _, _, _, _, reported⟩ := offends
      rw [ofString, read, reported] at accepted
      cases accepted
  · rintro ⟨steps, spells⟩
    exact ⟨_, spells.read .strict⟩

theorem accepted_joined_iff {front back : String} (apart : BeginsApart back.toList) :
    (∃ spec, ofString (front ++ back) .strict = .ok spec) ↔
      (∃ spec, ofString front .strict = .ok spec) ∧ ∃ spec, ofString back .strict = .ok spec := by
  rw [accepted_iff, accepted_iff, accepted_iff, exists_spells_iff, exists_spells_iff,
    exists_spells_iff, String.toList_append, pieces_joined apart]
  simp only [List.mem_append, or_imp, forall_and]

theorem apply_append {State : Type} [Calendar State] (origin : State) (front back : List Token) :
    Spec.apply origin { tokens := front ++ back } =
      Spec.apply origin { tokens := front } >>= fun next => Spec.apply next { tokens := back } :=
  List.foldlM_append

end Spec

/-- A text with another one behind it, which does not begin as a lexeme goes on, has the tokens of
both, is accepted strictly if both are, and is evaluated by evaluating both in turn. -/
theorem Spec.ofString_append (front back : String) (apart : BeginsApart back.toList) :
    (∃ frontTokens backTokens,
      Spec.ofString front = .ok { tokens := frontTokens } ∧
      Spec.ofString back = .ok { tokens := backTokens } ∧
      Spec.ofString (front ++ back) = .ok { tokens := frontTokens ++ backTokens }) ∧
    ((∃ spec, Spec.ofString (front ++ back) .strict = .ok spec) ↔
      (∃ spec, Spec.ofString front .strict = .ok spec) ∧
        ∃ spec, Spec.ofString back .strict = .ok spec) ∧
    ∀ {State : Type} [Calendar State] (origin : State),
      evaluate origin (front ++ back) =
        evaluate origin front >>= fun next => evaluate next back := by
  have joined : Spec.ofString (front ++ back) = .ok
      { tokens := (steps front.toList).map Step.token ++ (steps back.toList).map Step.token } := by
    rw [ofString, read_lenient, String.toList_append, steps_joined apart, List.map_append]
  refine ⟨⟨_, _, read_lenient front.toList, read_lenient back.toList, joined⟩,
    accepted_joined_iff apart, ?_⟩
  intro State _ origin
  have applied : ∀ (state : State) (text : String), evaluate state text =
      (Spec.apply state { tokens := (steps text.toList).map Step.token }).mapError .invalidField :=
    fun state text => evaluate_of_accepted state (read_lenient text.toList)
  rw [evaluate_of_accepted origin joined, apply_append, Result.mapError_bind, applied origin front]
  simp only [applied _ back]

theorem Spec.ofString_append_brokenTail :
    BeginsApart "=LD-3D".toList ∧
      evaluate Timestamp.march31 ("+1M-2" ++ "=LD-3D") =
        evaluate Timestamp.march31 "+1M-2" >>= fun next => evaluate next "=LD-3D" := by
  have apart : BeginsApart "=LD-3D".toList := by
    intro char isFirst
    have same : '=' = char := Option.some.inj isFirst
    rw [← same]
    decide
  exact ⟨apart, (Spec.ofString_append "+1M-2" "=LD-3D" apart).2.2 Timestamp.march31⟩

end DateAdjust
