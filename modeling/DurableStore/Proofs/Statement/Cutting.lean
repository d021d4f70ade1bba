import Mathlib.Data.List.TakeWhile
import DurableStore.Statement

/-!
Where a lexeme ends.

`Lexeme.next` has one equation for each kind of lexeme, in terms of the text that follows.  A
lexeme `Leads` a text if it is cut off in front of it.  How far a closed token reaches is settled
by the one character behind it (`TokenBefore`): a closed token leads any other text that begins with
the same character or with a blank (`TokenBefore.onto`), and no text is needed to tell where an open
quotation ends, because nothing follows it (`TokenBefore.rest_of_open`).
-/

namespace DurableStore

namespace Lexeme

open Text (isBlank)

/-! ## Kinds of characters -/

/-- Whether a quotation may start with this character. -/
def isQuote (c : Char) : Bool :=
  c == '\'' || c == '"'

/-- Whether a comment begins with `c` and what follows it. -/
def opensComment (c : Char) (rest : List Char) : Bool :=
  c == '-' && rest.head? == some '-' || c == '/' && rest.head? == some '*'

/-- Whether the lexeme separates tokens. -/
def isGap : Lexeme → Bool
  | gap _ _ => true
  | quoted _ _ | parameter | word _ | symbol _ => false

@[simp] theorem isGap_gap (text : List Char) (closed : Bool) : (gap text closed).isGap = true := rfl

variable {c : Char} {rest rest' : List Char} {lexeme : Lexeme}

theorem isQuote_iff : isQuote c = true ↔ c = '\'' ∨ c = '"' := by
  simp [isQuote]

theorem isBlank_of_isQuote (h : isQuote c = true) : isBlank c = false := by
  rcases isQuote_iff.1 h with rfl | rfl <;> decide

theorem continuesWord_of_startsWord (h : startsWord c = true) : continuesWord c = true := by
  simp only [startsWord, continuesWord, Char.isAlphanum, Bool.or_eq_true] at h ⊢
  exact h.imp_left .inl

/-- Words are ASCII, and no blank is in them. -/
theorem isBlank_of_continuesWord (h : continuesWord c = true) : isBlank c = false := by
  have ascii : 0x30 ≤ c.toNat ∧ c.toNat ≤ 0x7A := by
    simp only [continuesWord, Char.isAlphanum, Bool.or_eq_true, beq_iff_eq] at h
    rcases h with (letter | digit) | rfl
    · rcases Bool.or_eq_true_iff.1 letter with upper | lower
      · obtain ⟨low, high⟩ := of_decide_eq_true upper
        exact ⟨Nat.le_trans (by decide) low, Nat.le_trans high (by decide)⟩
      · obtain ⟨low, high⟩ := Bool.and_eq_true_iff.1 lower
        exact ⟨Nat.le_trans (by decide) (of_decide_eq_true low),
          Nat.le_trans (of_decide_eq_true high) (by decide)⟩
    · obtain ⟨low, high⟩ := Bool.and_eq_true_iff.1 digit
      exact ⟨Nat.le_trans (by decide) (of_decide_eq_true low),
        Nat.le_trans (of_decide_eq_true high) (by decide)⟩
    · decide
  simp only [isBlank, Text.blankRanges, List.any_cons, List.any_nil, Bool.or_false,
    Bool.or_eq_false_iff, Bool.and_eq_false_iff, decide_eq_false_iff_not]
  omega

/-- No comment begins in front of a blank, or of a character in front of which none began. -/
theorem opensComment_near (opens : opensComment c rest = false)
    (near : ∀ d, rest'.head? = some d → isBlank d = true ∨ rest.head? = some d) :
    opensComment c rest' = false := by
  rw [Bool.eq_false_iff] at opens ⊢
  intro opens'
  refine opens ?_
  simp only [opensComment, Bool.or_eq_true, Bool.and_eq_true, beq_iff_eq] at opens' ⊢
  refine opens'.imp (And.imp_right fun first => ?_) (And.imp_right fun first => ?_)
  · exact (near _ first).resolve_left (by decide)
  · exact (near _ first).resolve_left (by decide)

theorem isQuote_of_startsWord (h : startsWord c = true) : isQuote c = false := by
  rw [Bool.eq_false_iff]
  intro quotes
  rcases isQuote_iff.1 quotes with rfl | rfl <;> revert h <;> decide

/-! ## One equation for each kind -/

theorem next_blank (h : isBlank c = true) (rest : List Char) :
    next c rest = (.gap [c] true, rest) := by
  unfold next
  rw [if_pos h]

theorem next_quote (h : isQuote c = true) (rest : List Char) :
    next c rest =
      (.quoted (c :: (quotation c rest).1) (quotation c rest).2.1, (quotation c rest).2.2) := by
  unfold next
  rw [if_neg (by simp [isBlank_of_isQuote h]), if_pos (isQuote_iff.1 h)]

theorem next_parameter (rest : List Char) : next '?' rest = (.parameter, rest) := by
  unfold next
  rw [if_neg (by decide), if_neg (by decide), if_pos rfl]

theorem next_word (h : startsWord c = true) (rest : List Char) :
    next c rest =
      (.word (c :: rest.takeWhile continuesWord), rest.dropWhile continuesWord) := by
  have blank := isBlank_of_continuesWord (continuesWord_of_startsWord h)
  have quote : ¬ (c = '\'' ∨ c = '"') := by
    rw [← isQuote_iff, isQuote_of_startsWord h]
    decide
  have mark : c ≠ '?' := by
    rintro rfl
    revert h
    decide
  unfold next
  rw [if_neg (by simp [blank]), if_neg quote, if_neg mark, if_pos h]

theorem next_dashes (rest : List Char) :
    next '-' ('-' :: rest) = (.gap ('-' :: '-' :: (line rest).1) true, (line rest).2) := by
  unfold next
  rw [if_neg (by decide), if_neg (by decide), if_neg (by decide), if_neg (by decide)]
  rfl

theorem next_slashStar (rest : List Char) :
    next '/' ('*' :: rest) =
      (.gap ('/' :: '*' :: (comment rest).1) (comment rest).2.1, (comment rest).2.2) := by
  unfold next
  rw [if_neg (by decide), if_neg (by decide), if_neg (by decide), if_neg (by decide)]
  rfl

theorem next_symbol (blank : isBlank c = false) (quote : isQuote c = false) (mark : c ≠ '?')
    (word : startsWord c = false) (opens : opensComment c rest = false) :
    next c rest = (.symbol c, rest) := by
  unfold next
  rw [if_neg (by simp [blank]), if_neg (by rw [← isQuote_iff]; simp [quote]), if_neg mark,
    if_neg (by simp [word])]
  split
  next => simp [opensComment] at opens
  next => simp [opensComment] at opens
  next => rfl

/-- The kinds of lexemes that a text can begin with, one after another. -/
theorem next_cases (c : Char) (rest : List Char) :
    isBlank c = true ∨ isQuote c = true ∨ c = '?' ∨ startsWord c = true ∨
      (c = '-' ∧ ∃ more, rest = '-' :: more) ∨ (c = '/' ∧ ∃ more, rest = '*' :: more) ∨
      (isBlank c = false ∧ isQuote c = false ∧ c ≠ '?' ∧ startsWord c = false ∧
        opensComment c rest = false) := by
  by_cases opens : opensComment c rest = true
  · simp only [opensComment, Bool.or_eq_true, Bool.and_eq_true, beq_iff_eq,
      List.head?_eq_some_iff] at opens
    rcases opens with dashes | slashStar
    · exact .inr (.inr (.inr (.inr (.inl dashes))))
    · exact .inr (.inr (.inr (.inr (.inr (.inl slashStar)))))
  · simp only [Bool.not_eq_true] at opens
    grind

/-! ## Leading a text -/

/-- The lexeme is cut off in front of `rest`. -/
def Leads (lexeme : Lexeme) (rest : List Char) : Prop :=
  ∃ c tail, lexeme.text ++ rest = c :: tail ∧ next c tail = (lexeme, rest)

theorem leads_next (c : Char) (rest : List Char) : (next c rest).1.Leads (next c rest).2 :=
  ⟨c, rest, next_append c rest, rfl⟩

theorem Leads.cut (h : lexeme.Leads rest) :
    Lexeme.cut (lexeme.text ++ rest) = lexeme :: Lexeme.cut rest := by
  obtain ⟨c, tail, split, given⟩ := h
  rw [split, Lexeme.cut, given]

theorem leads_blank (h : isBlank c = true) (rest : List Char) : (gap [c] true).Leads rest :=
  ⟨c, rest, rfl, next_blank h rest⟩

/-! ## Quotations -/

section Quotation

variable {quote : Char} {chars text : List Char}

theorem quotation_cons_of_ne (differs : c ≠ quote) (chars : List Char) :
    quotation quote (c :: chars) =
      (c :: (quotation quote chars).1, (quotation quote chars).2.1,
        (quotation quote chars).2.2) := by
  cases chars with
  | nil => simp [quotation, differs]
  | cons d more => simp [quotation, differs]

theorem quotation_double (quote : Char) (chars : List Char) :
    quotation quote (quote :: quote :: chars) =
      (quote :: quote :: (quotation quote chars).1, (quotation quote chars).2.1,
        (quotation quote chars).2.2) := by
  simp [quotation]

theorem quotation_end (apart : rest.head? ≠ some quote) :
    quotation quote (quote :: rest) = ([quote], true, rest) := by
  cases rest with
  | nil => simp [quotation]
  | cons d more =>
    have differs : d ≠ quote := by simpa using apart
    simp [quotation, differs]

/-- No second quote follows the closing one, and a quotation that is closed is so in front of every
other text that begins with no quote. -/
theorem quotation_onto (h : quotation quote chars = (text, true, rest)) :
    rest.head? ≠ some quote ∧ ∀ rest', rest'.head? ≠ some quote →
      quotation quote (text ++ rest') = (text, true, rest') := by
  fun_induction quotation quote chars generalizing text with
  | case1 => simp at h
  | case2 =>
    cases h
    exact ⟨by simp, fun rest' apart => quotation_end apart⟩
  | case3 => simp at h
  | case4 more inner closed behind inside ih =>
    cases h
    obtain ⟨last, onto⟩ := ih inside
    refine ⟨last, fun rest' apart => ?_⟩
    simp only [List.cons_append, quotation_double, onto rest' apart]
  | case5 next more differs =>
    cases h
    exact ⟨by simpa using differs, fun rest' apart => quotation_end apart⟩
  | case6 c next more differs inner closed behind inside ih =>
    cases h
    obtain ⟨last, onto⟩ := ih inside
    refine ⟨last, fun rest' apart => ?_⟩
    rw [List.cons_append, quotation_cons_of_ne differs, onto rest' apart]

/-- Nothing follows a quotation that is not closed. -/
theorem quotation_open (h : quotation quote chars = (text, false, rest)) : rest = [] := by
  fun_induction quotation quote chars generalizing text with
  | case1 => simp_all
  | case2 => simp at h
  | case3 => simp_all
  | case4 more inner closed behind inside ih =>
    cases h
    exact ih inside
  | case5 => simp at h
  | case6 c next more differs inner closed behind inside ih =>
    cases h
    exact ih inside

/-- A quotation that is closed ends with its quote. -/
theorem quotation_last (h : quotation quote chars = (text, true, rest)) :
    text.getLast? = some quote := by
  fun_induction quotation quote chars generalizing text with
  | case1 => simp at h
  | case2 => cases h; rfl
  | case3 => simp at h
  | case4 more inner closed behind inside ih =>
    cases h
    simp [List.getLast?_cons, ih inside]
  | case5 => cases h; rfl
  | case6 c next more differs inner closed behind inside ih =>
    cases h
    simp [List.getLast?_cons, ih inside]

end Quotation

/-! ## Words -/

theorem continuesWord_of_isBlank (h : isBlank c = true) : continuesWord c = false := by
  rw [Bool.eq_false_iff]
  intro word
  rw [isBlank_of_continuesWord word] at h
  cases h

theorem continuesWord_of_dropWhile {chars : List Char}
    (h : (chars.dropWhile continuesWord).head? = some c) : continuesWord c = false := by
  have first := List.head?_dropWhile_not continuesWord chars
  rwa [h] at first

section Word

variable {first d : Char} {letters : List Char}

theorem continuesWord_of_mem (starts : startsWord first = true)
    (continues : ∀ d ∈ letters, continuesWord d = true) (member : d ∈ first :: letters) :
    continuesWord d = true := by
  rcases List.mem_cons.1 member with rfl | behind
  · exact continuesWord_of_startsWord starts
  · exact continues d behind

theorem takeWhile_word (word : ∀ d ∈ letters, continuesWord d = true)
    (ends : ∀ d, rest.head? = some d → continuesWord d = false) :
    (letters ++ rest).takeWhile continuesWord = letters := by
  rw [List.takeWhile_append_of_pos word]
  cases rest with
  | nil => simp
  | cons d more => simp [ends d rfl]

theorem dropWhile_word (word : ∀ d ∈ letters, continuesWord d = true)
    (ends : ∀ d, rest.head? = some d → continuesWord d = false) :
    (letters ++ rest).dropWhile continuesWord = rest := by
  rw [List.dropWhile_append_of_pos word]
  cases rest with
  | nil => simp
  | cons d more => simp [ends d rfl]

end Word

/-! ## What may follow a token -/

/-- How a token ends in front of `rest`. -/
inductive TokenBefore (rest : List Char) : Lexeme → Prop
  | quoted {quote : Char} {chars text : List Char} {closed : Bool}
      (quotes : isQuote quote = true) (runs : quotation quote chars = (text, closed, rest)) :
      TokenBefore rest (.quoted (quote :: text) closed)
  | parameter : TokenBefore rest .parameter
  | word {c : Char} {letters : List Char} (starts : startsWord c = true)
      (continues : ∀ d ∈ letters, continuesWord d = true)
      (ends : ∀ d, rest.head? = some d → continuesWord d = false) :
      TokenBefore rest (.word (c :: letters))
  | symbol {c : Char} (blank : isBlank c = false) (quote : isQuote c = false) (mark : c ≠ '?')
      (word : startsWord c = false) (opens : opensComment c rest = false) :
      TokenBefore rest (.symbol c)

theorem Leads.tokenBefore (h : lexeme.Leads rest) (token : lexeme.isGap = false) :
    lexeme.TokenBefore rest := by
  obtain ⟨c, tail, -, given⟩ := h
  rcases next_cases c tail with blank | quote | rfl | word | ⟨rfl, more, rfl⟩ | ⟨rfl, more, rfl⟩ |
    ⟨blank, quote, mark, word, opens⟩
  · rw [next_blank blank] at given
    cases given
    cases token
  · rw [next_quote quote] at given
    cases given
    exact .quoted quote rfl
  · rw [next_parameter] at given
    cases given
    exact .parameter
  · rw [next_word word] at given
    cases given
    exact .word word (fun d => List.mem_takeWhile_imp) fun d => continuesWord_of_dropWhile
  · rw [next_dashes] at given
    cases given
    cases token
  · rw [next_slashStar] at given
    cases given
    cases token
  · rw [next_symbol blank quote mark word opens] at given
    cases given
    exact .symbol blank quote mark word opens

/-- Nothing follows an open quotation. -/
theorem TokenBefore.rest_of_open (h : lexeme.TokenBefore rest)
    (opened : lexeme.isClosed = false) : rest = [] := by
  cases h with
  | quoted quotes runs =>
    cases opened
    exact quotation_open runs
  | parameter | word | symbol => cases opened

/-- **A closed token reaches no further in front of a blank**, or of the character that it stood in
front of. -/
theorem TokenBefore.onto (h : lexeme.TokenBefore rest) (closed : lexeme.isClosed = true)
    (near : ∀ d, rest'.head? = some d → isBlank d = true ∨ rest.head? = some d) :
    lexeme.Leads rest' := by
  cases h with
  | @quoted quote chars text _ quotes runs =>
    cases closed
    obtain ⟨last, onto⟩ := quotation_onto runs
    have apart : rest'.head? ≠ some quote := by
      intro same
      rcases near quote same with blank | before
      · rw [isBlank_of_isQuote quotes] at blank
        cases blank
      · exact last before
    refine ⟨quote, text ++ rest', rfl, ?_⟩
    rw [next_quote quotes, onto rest' apart]
  | parameter => exact ⟨'?', rest', rfl, next_parameter rest'⟩
  | @word c letters starts continues ends =>
    have ends' : ∀ d, rest'.head? = some d → continuesWord d = false := by
      intro d first
      rcases near d first with blank | before
      · exact continuesWord_of_isBlank blank
      · exact ends d before
    refine ⟨c, letters ++ rest', rfl, ?_⟩
    rw [next_word starts, takeWhile_word continues ends', dropWhile_word continues ends']
  | @symbol c blank quote mark word opens =>
    exact ⟨c, rest', rfl, next_symbol blank quote mark word (opensComment_near opens near)⟩

/-! ## The ends of a token -/

theorem TokenBefore.head?_text (h : lexeme.TokenBefore rest)
    (first : lexeme.text.head? = some c) : isBlank c = false := by
  cases h with
  | quoted quotes =>
    cases first
    exact isBlank_of_isQuote quotes
  | parameter =>
    cases first
    decide
  | word starts =>
    cases first
    exact isBlank_of_continuesWord (continuesWord_of_startsWord starts)
  | symbol blank =>
    cases first
    exact blank

theorem TokenBefore.getLast?_text (h : lexeme.TokenBefore rest) (closed : lexeme.isClosed = true)
    (last : lexeme.text.getLast? = some c) : isBlank c = false := by
  cases h with
  | quoted quotes runs =>
    cases closed
    rw [text, List.getLast?_cons, quotation_last runs] at last
    cases last
    exact isBlank_of_isQuote quotes
  | parameter =>
    cases last
    decide
  | word starts continues =>
    have member := List.mem_of_getLast? last
    exact isBlank_of_continuesWord (continuesWord_of_mem starts continues member)
  | symbol blank =>
    cases last
    exact blank

end Lexeme

/-! ## Joining tokens -/

section Joining

variable {lexeme : Lexeme}

theorem joinTokens_gap (gap : lexeme.isGap = true) (started pending : Bool)
    (lexemes : List Lexeme) :
    joinTokens started pending (lexeme :: lexemes) = joinTokens started true lexemes := by
  cases lexeme with
  | gap => rfl
  | quoted | parameter | word | symbol => cases gap

theorem joinTokens_token (token : lexeme.isGap = false) (started pending : Bool)
    (lexemes : List Lexeme) :
    joinTokens started pending (lexeme :: lexemes) =
      (if started && pending then [' '] else []) ++
        (lexeme.text ++ joinTokens true false lexemes) := by
  rw [← List.append_assoc]
  cases lexeme with
  | gap => cases token
  | quoted | parameter | word | symbol => rfl

end Joining

end DurableStore
