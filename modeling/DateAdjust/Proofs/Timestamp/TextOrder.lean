import DateAdjust.Proofs.Comparison
import DateAdjust.Proofs.Timestamp.RoundTrip
import Mathlib.Data.Char
import Mathlib.Data.List.Forall2

/-! The text of a timestamp as a key to sort by. All texts have one layout, so comparing two of them
character by character compares the fields from the year down. -/

namespace DateAdjust

namespace Text

theorem compare_append {front otherFront : List Char}
    (sameLength : front.length = otherFront.length) (back otherBack : List Char) :
    compare (front ++ back) (otherFront ++ otherBack) =
      (compare front otherFront).then (compare back otherBack) := by
  induction front generalizing otherFront with
  | nil =>
      obtain rfl := List.length_eq_zero_iff.mp sameLength.symm
      rfl
  | cons char front ih =>
      cases otherFront with
      | nil => cases sameLength
      | cons otherChar otherFront =>
          have later := ih (Nat.succ.inj sameLength)
          rw [List.cons_append, List.cons_append, List.compare_cons_cons, List.compare_cons_cons,
            later, Ordering.then_assoc]

/-- The text has a digit wherever the layout has a d, and the character of the layout elsewhere. -/
def HasLayout (layout text : List Char) : Prop :=
  List.Forall₂ (fun mark char => if mark = 'd' then char.isDigit else char = mark) layout text

namespace HasLayout

theorem mark {mark : Char} {layout text : List Char} (other : mark ≠ 'd')
    (rest : HasLayout layout text) : HasLayout (mark :: layout) (mark :: text) :=
  .cons (by rw [if_neg other]) rest

theorem append {layout otherLayout text otherText : List Char} (front : HasLayout layout text)
    (back : HasLayout otherLayout otherText) :
    HasLayout (layout ++ otherLayout) (text ++ otherText) :=
  List.rel_append front back

theorem digits {text : List Char} (isDigit : ∀ char ∈ text, char.isDigit) :
    HasLayout (List.replicate text.length 'd') text := by
  induction text with
  | nil => exact .nil
  | cons char text ih =>
      rw [List.forall_mem_cons] at isDigit
      exact .cons (by simpa using isDigit.1) (ih isDigit.2)

theorem toNat_lt {layout text : List Char} (hasLayout : HasLayout layout text)
    (ascii : ∀ mark ∈ layout, mark.toNat < 128) : ∀ char ∈ text, char.toNat < 128 := by
  induction hasLayout with
  | nil => simp
  | @cons mark char layout text matched _ ih =>
      rw [List.forall_mem_cons] at ascii ⊢
      refine ⟨?_, ih ascii.2⟩
      split at matched
      next =>
        have bounds := Decimal.isDigit_bounds matched
        omega
      next =>
        rw [matched]
        exact ascii.1

end HasLayout

end Text

namespace Decimal

theorem compare_digit {char other : Char} (isDigit : char.isDigit) (otherIsDigit : other.isDigit) :
    compare char other = compare (char.toNat - '0'.toNat) (other.toNat - '0'.toNat) := by
  have zero : '0'.toNat = 48 := rfl
  have bounds := isDigit_bounds isDigit
  have otherBounds := isDigit_bounds otherIsDigit
  rcases lt_trichotomy char other with less | rfl | greater
  · have lessNat : char.toNat < other.toNat := less
    rw [compare_lt_iff_lt.mpr less, Nat.compare_eq_lt.mpr (by omega)]
  · rw [compare_eq_iff_eq.mpr rfl, Nat.compare_eq_eq.mpr rfl]
  · have greaterNat : other.toNat < char.toNat := greater
    rw [compare_gt_iff_gt.mpr greater, Nat.compare_eq_gt.mpr (by omega)]

theorem ofDigitChars_first (char : Char) (digits : List Char) :
    Nat.ofDigitChars 10 (char :: digits) 0 =
      (char.toNat - '0'.toNat) * 10 ^ digits.length + Nat.ofDigitChars 10 digits 0 := by
  rw [Nat.ofDigitChars_cons, Nat.ofDigitChars_eq_ofDigitChars_zero, Nat.mul_zero, Nat.zero_add,
    Nat.mul_comm]

theorem compare_digits {digits others : List Char} (isDigit : ∀ char ∈ digits, char.isDigit)
    (otherIsDigit : ∀ char ∈ others, char.isDigit) (sameLength : digits.length = others.length) :
    compare digits others =
      compare (Nat.ofDigitChars 10 digits 0) (Nat.ofDigitChars 10 others 0) := by
  induction digits generalizing others with
  | nil =>
      obtain rfl := List.length_eq_zero_iff.mp sameLength.symm
      rfl
  | cons char digits ih =>
      cases others with
      | nil => cases sameLength
      | cons other others =>
          rw [List.forall_mem_cons] at isDigit otherIsDigit
          have lengths : digits.length = others.length := Nat.succ.inj sameLength
          have bound := ofDigitChars_lt isDigit.2 0
          have otherBound := ofDigitChars_lt otherIsDigit.2 0
          rw [Nat.zero_add, Nat.one_mul] at bound otherBound
          rw [← lengths] at otherBound
          rw [ofDigitChars_first, ofDigitChars_first, ← lengths,
            compare_mul_add_nat _ _ bound otherBound, List.compare_cons_cons,
            compare_digit isDigit.1 otherIsDigit.1, ih isDigit.2 otherIsDigit.2 lengths]

section Padded

variable {least greatest width : Nat} (number other : Bounded least greatest)
  (enough : 0 < width ∧ greatest < 10 ^ width)

include enough

theorem length_writePadded_of_enough : (writePadded width number.val).length = width :=
  length_writePadded enough.1 (Nat.lt_of_le_of_lt number.le_greatest enough.2)

variable (width) in
theorem writePadded_hasLayout :
    Text.HasLayout (List.replicate width 'd') (writePadded width number.val) := by
  have isDigits := Text.HasLayout.digits (denotes_writePadded width number.val).isDigit
  rwa [length_writePadded_of_enough number enough] at isDigits

theorem compare_writePadded :
    compare (writePadded width number.val) (writePadded width other.val) =
      compare number.val other.val := by
  have denotes := denotes_writePadded width number.val
  have otherDenotes := denotes_writePadded width other.val
  have length := length_writePadded_of_enough number enough
  have otherLength := length_writePadded_of_enough other enough
  rw [compare_digits denotes.isDigit otherDenotes.isDigit (length.trans otherLength.symm),
    denotes.value, otherDenotes.value]

theorem compare_writePadded_append (mark : Char) (later otherLater : List Char) :
    compare (writePadded width number.val ++ mark :: later)
        (writePadded width other.val ++ mark :: otherLater) =
      (compare number.val other.val).then (compare later otherLater) := by
  have length := length_writePadded_of_enough number enough
  have otherLength := length_writePadded_of_enough other enough
  rw [Text.compare_append (length.trans otherLength.symm), compare_writePadded _ _ enough,
    List.compare_cons_cons, compare_eq_iff_eq.mpr rfl]
  rfl

end Padded

end Decimal

namespace Timestamp

open Decimal

theorem text_eq_fields (timestamp : Timestamp) :
    timestamp.text =
      writePadded 4 timestamp.year.val ++ dateSeparator ::
        (writePadded 2 timestamp.month.val ++ dateSeparator ::
          (writePadded 2 timestamp.day.val ++ dateTimeSeparator ::
            (writePadded 2 timestamp.time.hour.val ++ timeSeparator ::
              (writePadded 2 timestamp.time.minute.val ++ timeSeparator ::
                (writePadded 2 timestamp.time.second.val ++ fractionSeparator ::
                  writePadded 3 timestamp.time.millisecond.val))))) := by
  simp [text, TimeOfDay.text]

theorem compare_eq_fields (first second : Timestamp) :
    compare first second =
      (compare first.year.val second.year.val).then
        ((compare first.month.val second.month.val).then
          ((compare first.day.val second.day.val).then
            ((compare first.time.hour.val second.time.hour.val).then
              ((compare first.time.minute.val second.time.minute.val).then
                ((compare first.time.second.val second.time.second.val).then
                  (compare first.time.millisecond.val second.time.millisecond.val)))))) :=
  rfl

theorem compare_text (first second : Timestamp) :
    compare first.text second.text = compare first second := by
  rw [text_eq_fields, text_eq_fields, compare_eq_fields,
    compare_writePadded_append _ _ (by decide), compare_writePadded_append _ _ (by decide),
    compare_writePadded_append _ _ (by decide), compare_writePadded_append _ _ (by decide),
    compare_writePadded_append _ _ (by decide), compare_writePadded_append _ _ (by decide),
    compare_writePadded _ _ (by decide)]

theorem text_hasLayout (timestamp : Timestamp) :
    Text.HasLayout "dddd-dd-ddTdd:dd:dd.ddd".toList timestamp.text := by
  rw [text_eq_fields]
  exact (writePadded_hasLayout 4 timestamp.year (by decide)).append <| .mark (by decide) <|
    (writePadded_hasLayout 2 timestamp.month (by decide)).append <| .mark (by decide) <|
    (writePadded_hasLayout 2 timestamp.day (by decide)).append <| .mark (by decide) <|
    (writePadded_hasLayout 2 timestamp.time.hour (by decide)).append <| .mark (by decide) <|
    (writePadded_hasLayout 2 timestamp.time.minute (by decide)).append <| .mark (by decide) <|
    (writePadded_hasLayout 2 timestamp.time.second (by decide)).append <| .mark (by decide) <|
    writePadded_hasLayout 3 timestamp.time.millisecond (by decide)

theorem compare_eq_eq_iff {first second : Timestamp} :
    compare first second = .eq ↔ first = second := by
  simp only [compare_eq_fields, Ordering.then_eq_eq, Nat.compare_eq_eq]
  constructor
  · intro sameFields
    apply eq_of_numbers_eq
    simp only [numbers, sameFields]
  · rintro rfl
    simp only [and_self]

structure InLayout (text : String) : Prop where
  length : text.length = 23
  ascii : ∀ char ∈ text.toList, char.toNat < 128
  layout : Text.HasLayout "dddd-dd-ddTdd:dd:dd.ddd".toList text.toList

theorem toList_toString (timestamp : Timestamp) : (toString timestamp).toList = timestamp.text :=
  String.toList_ofList

theorem toString_inLayout (timestamp : Timestamp) : InLayout (toString timestamp) := by
  have layout := timestamp.text_hasLayout
  rw [← toList_toString] at layout
  exact {
    length := by
      rw [← String.length_toList]
      exact (List.Forall₂.length_eq layout).symm
    ascii := layout.toNat_lt (by simp)
    layout }

/-- The texts of timestamps have one layout, and compare character by character as the timestamps
do, so that no two timestamps share a text. -/
theorem compare_toString (first second : Timestamp) :
    InLayout (toString first) ∧ InLayout (toString second) ∧
    compare (toString first).toList (toString second).toList = compare first second ∧
    (toString first = toString second ↔ first = second) := by
  have compared : compare (toString first).toList (toString second).toList =
      compare first second := by
    rw [toList_toString, toList_toString, compare_text]
  refine ⟨first.toString_inLayout, second.toString_inLayout, compared, ?_⟩
  constructor
  · intro sameText
    rw [sameText, toList_toString, compare_text, compare_eq_eq_iff.mpr rfl] at compared
    exact compare_eq_eq_iff.mp compared.symm
  · rintro rfl
    rfl

end Timestamp

end DateAdjust
