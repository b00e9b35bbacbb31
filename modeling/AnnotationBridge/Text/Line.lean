/-!
# Lines

A line ends with `\n`, `\r\n` or `\r`, and with nothing else. The break belongs to the line that it
ends, and after the last break there is one more line, which may be empty.

* `lines`: the lines of a text, each with its break.
* `lineContent`: a line without its break.
* `lines_flatten`: the lines, put together again, are the text.
-/

namespace AnnotationBridge.Text

/-- The lines of a text, each with its break. -/
def lines : List Char → List (List Char)
  | [] => [[]]
  | '\r' :: '\n' :: cs => ['\r', '\n'] :: lines cs
  | c :: cs =>
    if c = '\n' ∨ c = '\r' then [c] :: lines cs
    else match lines cs with
      | [] => [[c]]
      | line :: rest => (c :: line) :: rest

/-- An empty text has one line, which is empty. -/
@[simp] theorem lines_nil : lines [] = [[]] := by simp [lines]

/-- A carriage return and a line feed end a line together. -/
theorem lines_crlf (cs : List Char) : lines ('\r' :: '\n' :: cs) = ['\r', '\n'] :: lines cs := by
  simp [lines]

/-- A text has at least one line. -/
theorem lines_ne_nil (cs : List Char) : lines cs ≠ [] := by
  fun_cases lines cs <;> simp_all

/-- The lines, put together again, are the text. -/
theorem lines_flatten (cs : List Char) : (lines cs).flatten = cs := by
  fun_induction lines cs with
  | case1 => rfl
  | case2 cs ih => simp [ih]
  | case3 c cs _ _ ih => simp [ih]
  | case4 c cs _ _ h => exact absurd h (lines_ne_nil cs)
  | case5 c cs _ _ line rest h ih => rw [h] at ih; simpa using ih

/-- Whether a character is part of a line break. -/
def isBreak (c : Char) : Bool :=
  c = '\n' || c = '\r'

/-- A line without its break. -/
def lineContent (line : List Char) : List Char :=
  line.takeWhile (!isBreak ·)

/-- An empty line has no content. -/
@[simp] theorem lineContent_nil : lineContent [] = [] := rfl

/-- The content of a line is part of it. -/
theorem lineContent_length_le (line : List Char) : (lineContent line).length ≤ line.length :=
  (List.takeWhile_sublist _).length_le

end AnnotationBridge.Text
