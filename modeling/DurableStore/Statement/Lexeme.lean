import DurableStore.Text.Blank

/-!
Lexemes of statement text.

A text is cut into gaps (a blank or a comment) and tokens (a quoted literal, a parameter mark, a
word or any other single character).  Cutting loses nothing: the lexemes' texts joined are the
text (`Lexeme.flatMap_text_cut`).  A block comment or a quotation that is never closed takes the
rest of the text and is marked as open.
-/

namespace DurableStore

/-- A piece of statement text. -/
inductive Lexeme where
  /-- A blank, a line comment or a block comment. -/
  | gap (text : List Char) (closed : Bool)
  /-- A literal or a name between quotes; a quote inside it is written twice. -/
  | quoted (text : List Char) (closed : Bool)
  /-- A question mark. -/
  | parameter
  /-- ASCII letters, digits and underscores, not starting with a digit. -/
  | word (text : List Char)
  /-- Any other character. -/
  | symbol (char : Char)
  deriving DecidableEq, Repr

namespace Lexeme

open Text (isBlank)

/-- Whether a word may start with this character. -/
def startsWord (c : Char) : Bool :=
  c.isAlpha || c == '_'

/-- Whether a word may go on with this character. -/
def continuesWord (c : Char) : Bool :=
  c.isAlphanum || c == '_'

/-- The rest of a line, its end included, and what follows. -/
def line : List Char → List Char × List Char
  | [] => ([], [])
  | c :: rest =>
    if c = '\n' then ([c], rest)
    else
      let (text, rest) := line rest
      (c :: text, rest)

/-- The rest of a block comment up to its end, whether it has one, and what follows. -/
def comment : List Char → List Char × Bool × List Char
  | [] => ([], false, [])
  | '*' :: '/' :: rest => (['*', '/'], true, rest)
  | c :: rest =>
    let (text, closed, rest) := comment rest
    (c :: text, closed, rest)

/-- The rest of a quotation up to the closing quote, whether it has one, and what follows. -/
def quotation (quote : Char) : List Char → List Char × Bool × List Char
  | [] => ([], false, [])
  | [c] => if c = quote then ([c], true, []) else ([c], false, [])
  | c :: next :: rest =>
    if c = quote then
      if next = quote then
        let (text, closed, rest) := quotation quote rest
        (c :: next :: text, closed, rest)
      else ([c], true, next :: rest)
    else
      let (text, closed, rest) := quotation quote (next :: rest)
      (c :: text, closed, rest)

/-- The first lexeme of a text that starts with `c`, and what follows the lexeme. -/
def next (c : Char) (rest : List Char) : Lexeme × List Char :=
  if isBlank c then (.gap [c] true, rest)
  else if c = '\'' ∨ c = '"' then
    let (text, closed, rest) := quotation c rest
    (.quoted (c :: text) closed, rest)
  else if c = '?' then (.parameter, rest)
  else if startsWord c then
    (.word (c :: rest.takeWhile continuesWord), rest.dropWhile continuesWord)
  else
    match c, rest with
    | '-', '-' :: rest =>
      let (text, rest) := line rest
      (.gap ('-' :: '-' :: text) true, rest)
    | '/', '*' :: rest =>
      let (text, closed, rest) := comment rest
      (.gap ('/' :: '*' :: text) closed, rest)
    | c, rest => (.symbol c, rest)

/-- The characters of a lexeme. -/
def text : Lexeme → List Char
  | gap text _ => text
  | quoted text _ => text
  | parameter => ['?']
  | word text => text
  | symbol char => [char]

/-- Whether the lexeme has its closing mark, if it needs one. -/
def isClosed : Lexeme → Bool
  | gap _ closed | quoted _ closed => closed
  | parameter | word _ | symbol _ => true

/-- The word in upper case, if the lexeme is one. -/
def identifier? : Lexeme → Option String
  | word text => some (String.ofList (text.map Char.toUpper))
  | _ => none

theorem line_append (chars : List Char) : (line chars).1 ++ (line chars).2 = chars := by
  induction chars with
  | nil => rfl
  | cons c rest ih =>
    simp only [line]
    split
    · rfl
    · simp [ih]

theorem comment_append (chars : List Char) :
    (comment chars).1 ++ (comment chars).2.2 = chars := by
  fun_induction comment chars <;> simp_all

theorem quotation_append (quote : Char) (chars : List Char) :
    (quotation quote chars).1 ++ (quotation quote chars).2.2 = chars := by
  fun_induction quotation quote chars <;> simp_all

theorem next_append (c : Char) (rest : List Char) :
    (next c rest).1.text ++ (next c rest).2 = c :: rest := by
  unfold next
  split
  · rfl
  split
  · simp [text, quotation_append]
  split
  · simp_all [text]
  split
  · simp [text]
  split <;> simp [text, line_append, comment_append]

theorem text_next_ne_nil (c : Char) (rest : List Char) : (next c rest).1.text ≠ [] := by
  unfold next
  repeat' split
  all_goals simp [text]

theorem length_next_lt (c : Char) (rest : List Char) :
    (next c rest).2.length < rest.length + 1 := by
  have total := congrArg List.length (next_append c rest)
  have front := List.length_pos_iff.2 (text_next_ne_nil c rest)
  simp only [List.length_append, List.length_cons] at total
  omega

/-- Cuts a text into lexemes. -/
def cut : List Char → List Lexeme
  | [] => []
  | c :: rest =>
    have := length_next_lt c rest
    (next c rest).1 :: cut (next c rest).2
  termination_by chars => chars.length

theorem flatMap_text_cut (chars : List Char) : (cut chars).flatMap text = chars := by
  induction chars using cut.induct with
  | case1 => simp [cut]
  | case2 c rest _ ih => rw [cut, List.flatMap_cons, ih, next_append]

end Lexeme

end DurableStore
