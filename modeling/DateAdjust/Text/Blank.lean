/-! Blank characters, those with the Unicode property White_Space, and trimming them off a text. -/

namespace DateAdjust.Text

/-- The first and the last character of every run of blank characters. -/
def blankRanges : List (Nat × Nat) :=
  [(0x9, 0xD), (0x20, 0x20), (0x85, 0x85), (0xA0, 0xA0), (0x1680, 0x1680), (0x2000, 0x200A),
    (0x2028, 0x2029), (0x202F, 0x202F), (0x205F, 0x205F), (0x3000, 0x3000)]

def isBlank (char : Char) : Bool :=
  blankRanges.any fun range => range.1 ≤ char.toNat && char.toNat ≤ range.2

def trimStart (text : List Char) : List Char :=
  text.dropWhile isBlank

def trimEnd (text : List Char) : List Char :=
  (text.reverse.dropWhile isBlank).reverse

theorem trimEnd_append (text : List Char) :
    ∃ blanks, text = trimEnd text ++ blanks ∧ ∀ char ∈ blanks, isBlank char := by
  refine ⟨(text.reverse.takeWhile isBlank).reverse, ?_, ?_⟩
  · rw [trimEnd, ← List.reverse_append, List.takeWhile_append_dropWhile, List.reverse_reverse]
  · intro char member
    exact List.all_eq_true.mp List.all_takeWhile char (List.mem_reverse.mp member)

theorem isBlank_getLast?_trimEnd (text : List Char) :
    ∀ char ∈ (trimEnd text).getLast?, isBlank char = false := by
  intro char last
  have head := List.head?_dropWhile_not isBlank text.reverse
  rw [trimEnd, List.getLast?_reverse] at last
  rw [Option.mem_def.mp last] at head
  exact head

theorem trimEnd_cons {char : Char} (visible : isBlank char = false) (text : List Char) :
    ∃ tail, trimEnd (char :: text) = char :: tail := by
  obtain ⟨blanks, split, blank⟩ := trimEnd_append (char :: text)
  cases kept : trimEnd (char :: text) with
  | nil =>
      rw [kept, List.nil_append] at split
      rw [blank char (split ▸ List.mem_cons_self)] at visible
      cases visible
  | cons first tail =>
      rw [kept, List.cons_append] at split
      cases split
      exact ⟨tail, rfl⟩

def trim (text : List Char) : List Char :=
  trimEnd (trimStart text)

end DateAdjust.Text
