import DateAdjust.Text.Blank
import DateAdjust.Text.Parts
import DateAdjust.Token.Groups

/-! The tokens of a text, which is cut into successive matches and the single characters of noise
between them. A strict scan rejects noise that is not blank before the token behind it is taken. -/

namespace DateAdjust

inductive Strictness where
  | lenient
  | strict
  deriving DecidableEq, Repr, Inhabited

inductive Piece where
  | noise (char : Char)
  | lexeme (groups : Groups)
  deriving DecidableEq, Repr

def pieces (text : List Char) : List Piece :=
  match found : Groups.match? text with
  | some (groups, rest) =>
    have := Groups.match?_length found
    .lexeme groups :: pieces rest
  | none =>
    match text with
    | [] => []
    | char :: rest => .noise char :: pieces rest
termination_by text.length

namespace Token

/-- A gap with the byte offset at which it starts. Its first character that is not blank is
reported, with the whole gap but for the blanks around it. -/
def checkGap (strictness : Strictness) (start : Nat) (gap : List Char) : Except AdjustError Unit :=
  match strictness, gap.dropWhile Text.isBlank with
  | .strict, _ :: _ =>
    .error (.malformedSpec (start + Text.byteLength (gap.takeWhile Text.isBlank))
      (String.ofList (Text.trim gap)))
  | _, _ => .ok ()

/-- The tokens of pieces, behind a gap that starts at a byte offset and goes on with them. -/
def scan (strictness : Strictness) (start : Nat) (gap : List Char) :
    List Piece → Except AdjustError (List Token)
  | [] => do
    checkGap strictness start gap
    return []
  | .noise char :: later => scan strictness start (gap ++ [char]) later
  | .lexeme groups :: later => do
    checkGap strictness start gap
    let offset := start + Text.byteLength gap
    let token ← groups.token offset
    let tokens ← scan strictness (offset + Text.byteLength groups.whole) [] later
    return token :: tokens

end Token

end DateAdjust
