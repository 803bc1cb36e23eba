import DateAdjust.Text.Blank
import DateAdjust.Text.Parts
import Mathlib.Data.List.TakeWhile

/-! Texts put together from parts, and the cuts that find the parts again. -/

namespace DateAdjust.Text

/-- The core is the text without the blanks around it: it neither begins nor ends with a blank. -/
def TrimsTo (text core : List Char) : Prop :=
  ∃ front back, text = front ++ (core ++ back) ∧
    (∀ char ∈ front, isBlank char) ∧ (∀ char ∈ back, isBlank char) ∧
    (∀ char ∈ core.head?, isBlank char = false) ∧ ∀ char ∈ core.getLast?, isBlank char = false

theorem trimStart_append {front : List Char} (blank : ∀ char ∈ front, isBlank char)
    (text : List Char) : trimStart (front ++ text) = trimStart text :=
  List.dropWhile_append_of_pos blank

theorem trimStart_of_head {text : List Char} (visible : ∀ char ∈ text.head?, isBlank char = false) :
    trimStart text = text := by
  cases text with
  | nil => rfl
  | cons char text =>
      have first := visible char rfl
      exact List.dropWhile_cons_of_neg (by rw [first]; decide)

theorem isBlank_head?_trimStart (text : List Char) :
    ∀ char ∈ (trimStart text).head?, isBlank char = false := by
  intro char first
  have head := List.head?_dropWhile_not isBlank text
  rw [trimStart] at first
  rw [Option.mem_def.mp first] at head
  exact head

theorem trimEnd_eq (text : List Char) : trimEnd text = (trimStart text.reverse).reverse := rfl

theorem trimsTo_trim (text : List Char) : TrimsTo text (trim text) := by
  obtain ⟨back, split, blank⟩ := trimEnd_append (trimStart text)
  refine ⟨text.takeWhile isBlank, back, ?_, ?_, blank, ?_, ?_⟩
  · rw [trim, ← split, trimStart, List.takeWhile_append_dropWhile]
  · exact List.all_eq_true.mp List.all_takeWhile
  · intro char first
    apply isBlank_head?_trimStart text char
    rw [split, List.head?_append, ← trim, Option.mem_def.mp first]
    rfl
  · exact isBlank_getLast?_trimEnd (trimStart text)

theorem TrimsTo.eq_trim {text core : List Char} (trims : TrimsTo text core) : core = trim text := by
  obtain ⟨front, back, rfl, frontBlank, backBlank, first, last⟩ := trims
  rw [trim, trimStart_append frontBlank]
  cases core with
  | nil =>
      have nothing : trimStart back = [] := List.dropWhile_eq_nil_iff.mpr backBlank
      rw [List.nil_append, nothing]
      rfl
  | cons char core =>
      have kept : trimStart (char :: core ++ back) = char :: core ++ back := trimStart_of_head first
      have reversed : trimStart (char :: core).reverse = (char :: core).reverse := by
        apply trimStart_of_head
        rw [List.head?_reverse]
        exact last
      rw [kept, trimEnd_eq, List.reverse_append, trimStart_append, reversed, List.reverse_reverse]
      intro char member
      exact backBlank char (List.mem_reverse.mp member)

theorem trimsTo_iff {text core : List Char} : TrimsTo text core ↔ core = trim text := by
  constructor
  · exact TrimsTo.eq_trim
  · rintro rfl
    exact trimsTo_trim text

section SplitOnce

variable {isSeparator : Char → Bool} {text : List Char}

theorem splitOnce_append {front after : List Char} {separator : Char}
    (clean : ∀ char ∈ front, isSeparator char = false) (separates : isSeparator separator) :
    splitOnce isSeparator (front ++ separator :: after) = (front, some after) := by
  have kept : ∀ char ∈ front, !isSeparator char := by
    intro char member
    rw [clean char member]
    rfl
  have stops : ¬(!isSeparator separator) = true := by
    rw [separates]
    decide
  have found : (front ++ separator :: after).dropWhile (fun char => !isSeparator char) =
      separator :: after := by
    rw [List.dropWhile_append_of_pos kept]
    exact List.dropWhile_cons_of_neg stops
  have before : (front ++ separator :: after).takeWhile (fun char => !isSeparator char) =
      front := by
    rw [List.takeWhile_append_of_pos kept, List.append_right_eq_self]
    exact List.takeWhile_cons_of_neg stops
  rw [splitOnce, found, before]

theorem splitOnce_of_not_mem (clean : ∀ char ∈ text, isSeparator char = false) :
    splitOnce isSeparator text = (text, none) := by
  have nothing : text.dropWhile (fun char => !isSeparator char) = [] := by
    rw [List.dropWhile_eq_nil_iff]
    intro char member
    rw [clean char member]
    rfl
  rw [splitOnce, nothing]

theorem eq_of_splitOnce_none {front : List Char}
    (cut : splitOnce isSeparator text = (front, none)) : text = front := by
  simp only [splitOnce] at cut
  split at cut
  · cases cut
    rfl
  · cases cut

theorem eq_of_splitOnce_some {front after : List Char}
    (cut : splitOnce isSeparator text = (front, some after)) :
    ∃ separator, isSeparator separator ∧ text = front ++ separator :: after := by
  simp only [splitOnce] at cut
  split at cut
  · cases cut
  next separator rest found =>
    cases cut
    have head := List.head?_dropWhile_not (fun char => !isSeparator char) text
    rw [found] at head
    refine ⟨separator, by simpa using head, ?_⟩
    rw [← found, List.takeWhile_append_dropWhile]

end SplitOnce

section SplitOn

variable {separator : Char} {first second third text : List Char}

theorem splitOn_of_two (firstClean : separator ∉ first) (secondClean : separator ∉ second) :
    (first ++ separator :: second).splitOn separator = [first, second] := by
  have split : ([separator].intercalate [first, second]).splitOn separator = _ :=
    List.splitOn_intercalate separator (by simp [firstClean, secondClean]) (List.cons_ne_nil _ _)
  simpa using split

theorem splitOn_of_three (firstClean : separator ∉ first) (secondClean : separator ∉ second)
    (thirdClean : separator ∉ third) :
    (first ++ separator :: (second ++ separator :: third)).splitOn separator =
      [first, second, third] := by
  have split : ([separator].intercalate [first, second, third]).splitOn separator = _ :=
    List.splitOn_intercalate separator (by simp [firstClean, secondClean, thirdClean])
      (List.cons_ne_nil _ _)
  simpa using split

theorem eq_of_splitOn_two (cut : text.splitOn separator = [first, second]) :
    text = first ++ separator :: second := by
  have joined : [separator].intercalate (text.splitOn separator) = text :=
    List.intercalate_splitOn separator
  rw [cut] at joined
  simpa using joined.symm

theorem eq_of_splitOn_three (cut : text.splitOn separator = [first, second, third]) :
    text = first ++ separator :: (second ++ separator :: third) := by
  have joined : [separator].intercalate (text.splitOn separator) = text :=
    List.intercalate_splitOn separator
  rw [cut] at joined
  simpa using joined.symm

end SplitOn

end DateAdjust.Text
