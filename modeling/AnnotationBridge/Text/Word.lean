import AnnotationBridge.Text.Word.Class

/-!
# Words

`words` cuts a text at its word boundaries, so that identifiers, numbers, runs of blanks and single
marks come out as one piece each. The rules are those of the Unicode standard for word boundaries: a
joiner binds the pictograph after it, marks and format controls stay with the character before them,
and a full stop or an apostrophe is part of a word only between letters or between digits.

* `words`: the pieces.
* `words_flatten`: the pieces, put together again, are the text.
* `ne_nil_of_mem_words`: no piece is empty.
-/

namespace AnnotationBridge.Text

/-- What has been read of a piece that may still grow. -/
inductive WordTail where
  /-- It ends in a letter. -/
  | letter
  /-- It ends in a Hebrew letter. -/
  | hebrew
  /-- It ends in a digit. -/
  | numeric
  /-- It ends in Katakana. -/
  | katakana
  /-- It ends in a connector such as the low line. -/
  | connector
  /-- It is a run of blanks. -/
  | blank
  /-- It is the first half of a flag. -/
  | halfFlag
  /-- It grows by marks only. -/
  | closed
  /-- It ends in an apostrophe after a Hebrew letter, and goes on if a letter follows. -/
  | hebrewQuote
  /-- It ends in a mark that belongs to it only if a letter follows; else it ends at `back`. -/
  | beforeLetter (back : Nat)
  /-- It ends in a quotation mark that belongs to it only if a Hebrew letter follows. -/
  | beforeHebrew (back : Nat)
  /-- It ends in a mark that belongs to it only if a digit follows. -/
  | beforeNumeric (back : Nat)
  deriving DecidableEq, Repr

namespace WordTail

/-- The tail of a piece that starts with a character of the given class. -/
def start : WordClass → WordTail
  | .letter => .letter
  | .hebrew => .hebrew
  | .numeric => .numeric
  | .katakana => .katakana
  | .connector => .connector
  | .regional => .halfFlag
  | .space => .blank
  | _ => .closed

/-- The tail after one more character of class `next` at offset `at_`, or `none` at a boundary.
`marked` tells whether marks have been passed over since the piece began. -/
def step (marked : Bool) (at_ : Nat) : WordTail → WordClass → Option WordTail
  | .letter, .letter | .numeric, .letter | .connector, .letter => some .letter
  | .hebrew, .letter | .hebrewQuote, .letter | .beforeLetter _, .letter => some .letter
  | .letter, .hebrew | .numeric, .hebrew | .connector, .hebrew => some .hebrew
  | .hebrew, .hebrew | .hebrewQuote, .hebrew | .beforeLetter _, .hebrew => some .hebrew
  | .beforeHebrew _, .hebrew => some .hebrew
  | .letter, .numeric | .hebrew, .numeric | .numeric, .numeric | .connector, .numeric
  | .beforeNumeric _, .numeric => some .numeric
  | .katakana, .katakana | .connector, .katakana => some .katakana
  | .letter, .connector | .hebrew, .connector | .numeric, .connector | .katakana, .connector
  | .connector, .connector => some .connector
  | .hebrew, .doubleQuote => some (.beforeHebrew at_)
  | .hebrew, .singleQuote => some .hebrewQuote
  | .letter, .midLetter | .letter, .midBoth | .letter, .singleQuote
  | .hebrew, .midLetter | .hebrew, .midBoth => some (.beforeLetter at_)
  | .numeric, .midNumber | .numeric, .midBoth | .numeric, .singleQuote =>
    some (.beforeNumeric at_)
  | .blank, .space => if marked then none else some .blank
  | .halfFlag, .regional => some .closed
  | _, _ => none

/-- Where a piece of length `n` with this tail ends if it cannot grow. -/
def finish (n : Nat) : WordTail → Nat
  | .beforeLetter back | .beforeHebrew back | .beforeNumeric back => back
  | _ => n

end WordTail

/-- The length of the piece of which `n` characters with the given tail have been read, before the
rest `cs`. `joined` tells whether a joiner was read last, `marked` whether any mark was. -/
def growWord (tail : WordTail) (joined marked : Bool) (n : Nat) : List Char → Nat
  | [] => tail.finish n
  | c :: cs =>
    let next := WordClass.ofChar c
    if next.isTransparent then growWord tail (next = .joiner) true (n + 1) cs
    else if joined && isPictograph c then growWord .closed false marked (n + 1) cs
    else match tail.step marked n next with
      | some tail' => growWord tail' false marked (n + 1) cs
      | none => tail.finish n

/-- The length of the piece that starts with `c` before the rest `cs`. -/
def wordLength (c : Char) (cs : List Char) : Nat :=
  match WordClass.ofChar c with
  | .carriageReturn => if cs.head? = some '\n' then 2 else 1
  | .lineFeed | .newline => 1
  | first => growWord (.start first) (first = .joiner) false 1 cs

/-- The text cut at its word boundaries. -/
def words : List Char → List (List Char)
  | [] => []
  | c :: cs =>
    (c :: cs.take (wordLength c cs - 1)) :: words (cs.drop (wordLength c cs - 1))
  termination_by cs => cs.length
  decreasing_by
    rw [List.length_drop, List.length_cons]
    exact Nat.lt_succ_of_le (Nat.sub_le _ _)

/-- An empty text has no word. -/
@[simp] theorem words_nil : words [] = [] := by
  simp [words]

/-- The first word is taken off, and the rest is cut further. -/
theorem words_cons (c : Char) (cs : List Char) :
    words (c :: cs) =
      (c :: cs.take (wordLength c cs - 1)) :: words (cs.drop (wordLength c cs - 1)) := by
  rw [words]

/-- The pieces, put together again, are the text. -/
theorem words_flatten (cs : List Char) : (words cs).flatten = cs := by
  fun_induction words cs with
  | case1 => rfl
  | case2 c cs ih => simp [ih]

/-- No piece is empty. -/
theorem ne_nil_of_mem_words {cs w : List Char} (h : w ∈ words cs) : w ≠ [] := by
  fun_induction words cs with
  | case1 => simp at h
  | case2 c cs ih =>
    rcases List.mem_cons.1 h with rfl | h
    · simp
    · exact ih h

end AnnotationBridge.Text
