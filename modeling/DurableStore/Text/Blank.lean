/-!
White space: the characters with the Unicode property White_Space, and cutting them off a text.

`trim` removes blanks at both ends and nothing else.
-/

namespace DurableStore.Text

/-- The code points with the property White_Space, as first and last of each run. -/
def blankRanges : List (Nat × Nat) :=
  [(0x09, 0x0D), (0x20, 0x20), (0x85, 0x85), (0xA0, 0xA0), (0x1680, 0x1680), (0x2000, 0x200A),
   (0x2028, 0x2029), (0x202F, 0x202F), (0x205F, 0x205F), (0x3000, 0x3000)]

/-- Whether a character is white space. -/
def isBlank (c : Char) : Bool :=
  blankRanges.any fun (first, last) => first ≤ c.toNat && c.toNat ≤ last

/-- A text without the blanks it ends with. -/
def trimRight (text : List Char) : List Char :=
  (text.reverse.dropWhile isBlank).reverse

/-- A text without the blanks at its two ends. -/
def trim (text : List Char) : List Char :=
  trimRight (text.dropWhile isBlank)

theorem isBlank_of_isWhitespace {c : Char} (h : c.isWhitespace) : isBlank c := by
  simp only [Char.isWhitespace, Bool.or_eq_true, decide_eq_true_eq] at h
  rcases h with ((rfl | rfl) | rfl) | rfl <;> decide

section Trim

variable {text : List Char} {c : Char}

theorem trimRight_concat (text : List Char) (c : Char) :
    trimRight (text ++ [c]) = if isBlank c then trimRight text else text ++ [c] := by
  unfold trimRight
  rw [List.reverse_concat, List.dropWhile_cons]
  split <;> simp

/-- A trimmed text does not end with a blank. -/
theorem isBlank_of_getLast?_trim (h : (trim text).getLast? = some c) : isBlank c = false := by
  unfold trim trimRight at h
  rw [List.getLast?_reverse] at h
  have first := List.head?_dropWhile_not isBlank (text.dropWhile isBlank).reverse
  rwa [h] at first

theorem trim_eq_self (first : ∀ c, text.head? = some c → isBlank c = false)
    (last : ∀ c, text.getLast? = some c → isBlank c = false) : trim text = text := by
  have left : text.dropWhile isBlank = text := by
    cases text with
    | nil => rfl
    | cons c rest => simp [first c rfl]
  have right : text.reverse.dropWhile isBlank = text.reverse := by
    cases reversed : text.reverse with
    | nil => rfl
    | cons c rest =>
      have ends : text.getLast? = some c := by
        rw [← List.head?_reverse, reversed]
        rfl
      simp [last c ends]
  unfold trim trimRight
  rw [left, right, List.reverse_reverse]

end Trim

end DurableStore.Text
