/-! Cutting a text at a separator, and the size of a text in bytes. -/

namespace DateAdjust.Text

def splitOnce (isSeparator : Char → Bool) (text : List Char) : List Char × Option (List Char) :=
  match text.dropWhile fun char => !isSeparator char with
  | [] => (text, none)
  | _ :: after => (text.takeWhile fun char => !isSeparator char, some after)

def byteLength : List Char → Nat
  | [] => 0
  | char :: text => char.utf8Size + byteLength text

@[simp]
theorem byteLength_nil : byteLength [] = 0 := rfl

@[simp]
theorem byteLength_cons (char : Char) (text : List Char) :
    byteLength (char :: text) = char.utf8Size + byteLength text := rfl

@[simp]
theorem byteLength_append (front back : List Char) :
    byteLength (front ++ back) = byteLength front + byteLength back := by
  induction front with
  | nil => simp
  | cons char front ih => simp [ih, Nat.add_assoc]

theorem utf8ByteSize_ofList (text : List Char) :
    (String.ofList text).utf8ByteSize = byteLength text := by
  induction text with
  | nil => rfl
  | cons char text ih =>
      rw [show char :: text = [char] ++ text from rfl, String.ofList_append,
        String.utf8ByteSize_append, ih, byteLength_append]
      simp

end DateAdjust.Text
