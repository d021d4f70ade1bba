import Mathlib.Data.List.Infix
import DurableStore.Proofs.Statement.Cutting

/-!
Statement text put together from gaps and tokens.

A `Fragment` is a gap or a token, and its type says which characters it may have.  Fragments follow
one another (`Munched`) if none of them would reach into the text behind it.  Cutting such a text
finds exactly these fragments again (`cut_spell`).  Blanks at the ends of the text are trimmed
before it is cut, which shortens or drops the gaps there and nothing else, so the statement is the
one that the fragments make up (`Statement.prepare_eq_ofLexemes`).
-/

namespace DurableStore

open Lexeme
open Text (isBlank)

/-! ## Fragments of text -/

/-- What separates tokens. -/
inductive Gap where
  | blanks (run : List Char) (nonempty : run ≠ []) (blank : ∀ c ∈ run, isBlank c = true)
  /-- Two dashes and the rest of the line, which the text may end with. -/
  | lineComment (body : List Char) (ended : Bool) (oneLine : '\n' ∉ body)
  | blockComment (body : List Char) (unclosed : ¬ ['*', '/'] <:+: body)

/-- What a statement is made of. -/
inductive Token where
  /-- Any content between quotes. -/
  | literal (quote : Char) (content : List Char) (quotes : isQuote quote = true)
  | word (first : Char) (rest : List Char) (starts : startsWord first = true)
      (continues : ∀ c ∈ rest, continuesWord c = true)
  /-- Any other character. -/
  | mark (char : Char) (visible : isBlank char = false) (unquoted : isQuote char = false)
      (wordless : startsWord char = false)

/-- A gap or a token. -/
inductive Fragment where
  | gap (gap : Gap)
  | token (token : Token)

/-- A content with every quote written twice. -/
def doubled (quote : Char) (content : List Char) : List Char :=
  content.flatMap fun c => if c = quote then [quote, quote] else [c]

namespace Fragment

/-- The characters of a fragment. -/
def spelling : Fragment → List Char
  | gap (.blanks run _ _) => run
  | gap (.lineComment body ended _) => '-' :: '-' :: body ++ if ended then ['\n'] else []
  | gap (.blockComment body _) => '/' :: '*' :: body ++ ['*', '/']
  | token (.literal quote content _) => quote :: doubled quote content ++ [quote]
  | token (.word first rest _ _) => first :: rest
  | token (.mark char _ _ _) => [char]

/-- The fragment does not reach into the text behind it. -/
def MayPrecede : Fragment → List Char → Prop
  | gap (.lineComment _ false _), rest => rest = []
  | gap _, _ => True
  | token (.literal quote _ _), rest => rest.head? ≠ some quote
  | token (.word _ _ _ _), rest => ∀ c ∈ rest.head?, continuesWord c = false
  | token (.mark char _ _ _), rest => opensComment char rest = false

instance : (fragment : Fragment) → (rest : List Char) → Decidable (fragment.MayPrecede rest)
  | gap (.lineComment _ false _), rest => inferInstanceAs (Decidable (rest = []))
  | gap (.lineComment _ true _), _ | gap (.blanks _ _ _), _ | gap (.blockComment _ _), _ =>
    .isTrue trivial
  | token (.literal quote _ _), rest => inferInstanceAs (Decidable (rest.head? ≠ some quote))
  | token (.word _ _ _ _), [] => .isTrue nofun
  | token (.word _ _ _ _), c :: _ =>
    decidable_of_iff (continuesWord c = false) (by simp [MayPrecede])
  | token (.mark char _ _ _), rest => inferInstanceAs (Decidable (opensComment char rest = false))

/-- Whether the fragment separates tokens. -/
def isGap : Fragment → Bool
  | gap _ => true
  | token _ => false

/-- Whether the fragment is a question mark. -/
def isParameter : Fragment → Bool
  | token (.mark char _ _ _) => char = '?'
  | _ => false

/-- The word in upper case, if the fragment is one. -/
def identifier? : Fragment → Option String
  | token (.word first rest _ _) => some (String.ofList ((first :: rest).map Char.toUpper))
  | _ => none

/-- What the fragment is cut into. -/
def lexemes : Fragment → List Lexeme
  | gap (.blanks run _ _) => run.map fun c => .gap [c] true
  | fragment@(gap _) => [.gap fragment.spelling true]
  | fragment@(token (.literal _ _ _)) => [.quoted fragment.spelling true]
  | fragment@(token (.word _ _ _ _)) => [.word fragment.spelling]
  | token (.mark char _ _ _) => [if char = '?' then .parameter else .symbol char]

end Fragment

/-- The text that fragments make up. -/
def spell (fragments : List Fragment) : List Char :=
  fragments.flatMap Fragment.spelling

/-- No fragment reaches into the next one. -/
def Munched : List Fragment → Prop
  | [] => True
  | fragment :: rest => fragment.MayPrecede (spell rest) ∧ Munched rest

instance : (fragments : List Fragment) → Decidable (Munched fragments)
  | [] => .isTrue trivial
  | fragment :: rest =>
    have := instDecidableMunched rest
    inferInstanceAs (Decidable (fragment.MayPrecede (spell rest) ∧ Munched rest))

variable {c : Char} {chars rest body : List Char} {fragment : Fragment} {fragments : List Fragment}

@[simp] theorem spell_cons (fragment : Fragment) (fragments : List Fragment) :
    spell (fragment :: fragments) = fragment.spelling ++ spell fragments := rfl

/-! ## Comments and quotations -/

theorem line_ended (oneLine : '\n' ∉ body) (rest : List Char) :
    line (body ++ '\n' :: rest) = (body ++ ['\n'], rest) := by
  induction body with
  | nil => simp [line]
  | cons c body ih =>
    rw [List.mem_cons, not_or] at oneLine
    simp [line, Ne.symm oneLine.1, ih oneLine.2]

theorem line_last (oneLine : '\n' ∉ body) : line body = (body, []) := by
  induction body with
  | nil => rfl
  | cons c body ih =>
    rw [List.mem_cons, not_or] at oneLine
    simp [line, Ne.symm oneLine.1, ih oneLine.2]

/-- A block comment ends at the first end mark, also behind a star. -/
theorem comment_closed (unclosed : ¬ ['*', '/'] <:+: body) (rest : List Char) :
    comment (body ++ '*' :: '/' :: rest) = (body ++ ['*', '/'], true, rest) := by
  induction body with
  | nil => rfl
  | cons c body ih =>
    rw [List.infix_cons_iff, not_or] at unclosed
    have still : ∀ more, c = '*' → body ++ '*' :: '/' :: rest = '/' :: more → False := by
      rintro more rfl slash
      cases body with
      | nil => simp at slash
      | cons d body =>
        obtain rfl : d = '/' := (List.cons.inj slash).1
        exact unclosed.1 ⟨body, rfl⟩
    rw [List.cons_append, comment, ih unclosed.2]
    · rfl
    · exact still

theorem quotation_doubled {quote : Char} (content : List Char)
    (apart : rest.head? ≠ some quote) :
    quotation quote (doubled quote content ++ quote :: rest) =
      (doubled quote content ++ [quote], true, rest) := by
  induction content with
  | nil => exact quotation_end apart
  | cons c content ih =>
    unfold doubled at ih ⊢
    rw [List.flatMap_cons]
    split
    next => simp [quotation_double, ih]
    next differs => simp [quotation_cons_of_ne differs, ih]

/-! ## Cutting what was put together -/

theorem cut_blanks {run : List Char} (blank : ∀ c ∈ run, isBlank c = true) (rest : List Char) :
    cut (run ++ rest) = run.map (fun c => .gap [c] true) ++ cut rest := by
  induction run with
  | nil => rfl
  | cons c run ih =>
    rw [List.cons_append, cut, next_blank (blank c List.mem_cons_self),
      ih fun d member => blank d (List.mem_cons_of_mem c member)]
    rfl

/-- **A fragment is found again** in front of what it may precede. -/
theorem Fragment.cut_spelling (h : fragment.MayPrecede rest) :
    cut (fragment.spelling ++ rest) = fragment.lexemes ++ cut rest := by
  match fragment with
  | gap (.blanks run _ blank) => exact cut_blanks blank rest
  | gap (.lineComment body true oneLine) =>
    have split : (gap (.lineComment body true oneLine)).spelling ++ rest =
        '-' :: '-' :: (body ++ '\n' :: rest) := by
      simp [spelling]
    rw [split, cut, next_dashes, line_ended oneLine]
    simp [lexemes, spelling]
  | gap (.lineComment body false oneLine) =>
    -- Nothing is behind a line that no line end closes.
    obtain rfl : rest = [] := h
    have split : (gap (.lineComment body false oneLine)).spelling ++ [] = '-' :: '-' :: body := by
      simp [spelling]
    rw [split, cut.eq_2, next_dashes, line_last oneLine]
    simp [lexemes, spelling]
  | gap (.blockComment body unclosed) =>
    have split : (gap (.blockComment body unclosed)).spelling ++ rest =
        '/' :: '*' :: (body ++ '*' :: '/' :: rest) := by
      simp [spelling]
    rw [split, cut, next_slashStar, comment_closed unclosed]
    simp [lexemes, spelling]
  | token (.literal quote content quotes) =>
    have split : (token (.literal quote content quotes)).spelling ++ rest =
        quote :: (doubled quote content ++ quote :: rest) := by
      simp [spelling]
    rw [split, cut, next_quote quotes, quotation_doubled content h]
    simp [lexemes, spelling]
  | token (.word first letters starts continues) =>
    have split : (token (.word first letters starts continues)).spelling ++ rest =
        first :: (letters ++ rest) := rfl
    rw [split, cut, next_word starts, takeWhile_word continues h, dropWhile_word continues h]
    simp [lexemes, spelling]
  | token (.mark char visible unquoted wordless) =>
    have split : (token (.mark char visible unquoted wordless)).spelling ++ rest =
        char :: rest := rfl
    rw [split, cut]
    by_cases parameter : char = '?'
    · subst parameter
      rw [next_parameter]
      rfl
    · rw [next_symbol visible unquoted parameter wordless h]
      simp [lexemes, parameter]

/-- **Cutting the text that fragments make up** finds them again. -/
theorem cut_spell (munched : Munched fragments) :
    cut (spell fragments) = fragments.flatMap Fragment.lexemes := by
  induction fragments with
  | nil => simp [spell, cut]
  | cons fragment rest ih =>
    rw [spell_cons, Fragment.cut_spelling munched.1, ih munched.2, List.flatMap_cons]

/-! ## Trimming -/

/-- Two lists of lexemes have the same tokens, apart in the same places, and leave as much open. -/
structure Alike (lexemes lexemes' : List Lexeme) : Prop where
  text : ∀ started pending, joinTokens started pending lexemes' = joinTokens started pending lexemes
  words : lexemes'.filterMap identifier? = lexemes.filterMap identifier?
  parameters : lexemes'.count .parameter = lexemes.count .parameter
  closed : lexemes'.all isClosed = lexemes.all isClosed

namespace Alike

variable {lexemes lexemes' lexemes'' : List Lexeme}

theorem refl (lexemes : List Lexeme) : Alike lexemes lexemes :=
  ⟨fun _ _ => rfl, rfl, rfl, rfl⟩

theorem trans (h : Alike lexemes lexemes') (h' : Alike lexemes' lexemes'') :
    Alike lexemes lexemes'' :=
  ⟨fun started pending => (h'.text started pending).trans (h.text started pending),
    h'.words.trans h.words, h'.parameters.trans h.parameters, h'.closed.trans h.closed⟩

theorem cons (h : Alike lexemes lexemes') (lexeme : Lexeme) :
    Alike (lexeme :: lexemes) (lexeme :: lexemes') := by
  refine ⟨fun started pending => ?_, ?_, ?_, ?_⟩
  · cases kind : lexeme.isGap with
    | true => rw [joinTokens_gap kind, joinTokens_gap kind, h.text]
    | false => rw [joinTokens_token kind, joinTokens_token kind, h.text]
  · rw [List.filterMap_cons, List.filterMap_cons, h.words]
  · rw [List.count_cons, List.count_cons, h.parameters]
  · rw [List.all_cons, List.all_cons, h.closed]

theorem append (h : Alike lexemes lexemes') (before : List Lexeme) :
    Alike (before ++ lexemes) (before ++ lexemes') := by
  induction before with
  | nil => exact h
  | cons lexeme before ih => exact ih.cons lexeme

theorem ofLexemes_eq (h : Alike lexemes lexemes') :
    Statement.ofLexemes lexemes' = Statement.ofLexemes lexemes := by
  unfold Statement.ofLexemes
  rw [h.text, h.words, h.parameters, h.closed]

end Alike

theorem Fragment.MayPrecede.of_append (h : fragment.MayPrecede (chars ++ rest)) :
    fragment.MayPrecede chars := by
  have first : ∀ d, chars.head? = some d → (chars ++ rest).head? = some d := by
    intro d begins
    rw [List.head?_append, begins]
    rfl
  match fragment with
  | gap (.blanks _ _ _) | gap (.lineComment _ true _) | gap (.blockComment _ _) => trivial
  | gap (.lineComment _ false _) => exact (List.append_eq_nil_iff.1 h).1
  | token (.literal _ _ _) => exact fun quote => h (first _ quote)
  | token (.word _ _ _ _) => exact fun d begins => h d (first d begins)
  | token (.mark _ _ _ _) => exact opensComment_near h fun d begins => .inr (first d begins)

theorem Fragment.spelling_ne_nil (fragment : Fragment) : fragment.spelling ≠ [] := by
  match fragment with
  | gap (.blanks _ nonempty _) => exact nonempty
  | gap (.lineComment _ _ _) | gap (.blockComment _ _) => simp [spelling]
  | token (.literal _ _ _) | token (.word _ _ _ _) | token (.mark _ _ _ _) => simp [spelling]

theorem eq_nil_of_spell (h : spell fragments = []) : fragments = [] := by
  cases fragments with
  | nil => rfl
  | cons fragment rest => exact absurd (List.append_eq_nil_iff.1 h).1 fragment.spelling_ne_nil

theorem alike_gap (text text' : List Char) : Alike [.gap text true] [.gap text' true] :=
  ⟨fun _ _ => rfl, rfl, by simp, rfl⟩

/-- A gap that nothing follows does not count. -/
theorem alike_concat_gap (lexemes : List Lexeme) (text : List Char) :
    Alike (lexemes ++ [.gap text true]) lexemes := by
  have last : Alike [.gap text true] [] := ⟨fun _ _ => rfl, rfl, by simp, rfl⟩
  simpa using last.append lexemes

/-- The last blank of a fragment can be left out, or the fragment with it. -/
theorem exists_shorter_fragment (blank : isBlank c = true)
    (ends : fragment.spelling = chars ++ [c]) :
    ∃ shorter, Munched shorter ∧ spell shorter = chars ∧
      Alike ([fragment].flatMap Fragment.lexemes) (shorter.flatMap Fragment.lexemes) := by
  -- Only a gap can end with a blank.
  have last {d : Char} (h : fragment.spelling.getLast? = some d) (visible : isBlank d = false) :
      False := by
    rw [ends, List.getLast?_concat] at h
    obtain rfl : c = d := Option.some.inj h
    simp [visible] at blank
  match fragment with
  | .gap (.blanks run _ blanks) =>
    obtain rfl : run = chars ++ [c] := ends
    have dropped := alike_concat_gap (chars.map fun d => .gap [d] true) [c]
    by_cases empty : chars = []
    · subst empty
      exact ⟨[], trivial, rfl, dropped⟩
    · have blanks' : ∀ d ∈ chars, isBlank d = true :=
        fun d member => blanks d (List.mem_append_left _ member)
      exact ⟨[.gap (.blanks chars empty blanks')], ⟨trivial, trivial⟩,
        by simp [spell, Fragment.spelling], by simpa [Fragment.lexemes] using dropped⟩
  | .gap (.lineComment body true oneLine) =>
    obtain ⟨rfl, -⟩ := List.append_inj' (ends : '-' :: '-' :: body ++ ['\n'] = chars ++ [c]) rfl
    exact ⟨[.gap (.lineComment body false oneLine)], ⟨rfl, trivial⟩,
      by simp [spell, Fragment.spelling], alike_gap _ _⟩
  | .gap (.lineComment body false oneLine) =>
    rcases List.eq_nil_or_concat' body with rfl | ⟨body, d, rfl⟩
    · exact (last (d := '-') rfl (by decide)).elim
    · have ends : '-' :: '-' :: body ++ [d] = chars ++ [c] := by
        simpa [Fragment.spelling] using ends
      obtain ⟨rfl, -⟩ := List.append_inj' ends rfl
      have oneLine' : '\n' ∉ body := fun member => oneLine (List.mem_append_left _ member)
      exact ⟨[.gap (.lineComment body false oneLine')], ⟨rfl, trivial⟩,
        by simp [spell, Fragment.spelling], alike_gap _ _⟩
  | .gap (.blockComment body unclosed) =>
    have final : ('/' :: '*' :: body ++ ['*', '/']).getLast? = some '/' := by
      simp [List.getLast?_cons]
    exact (last final (by decide)).elim
  | .token (.literal quote content quotes) =>
    have final : (quote :: doubled quote content ++ [quote]).getLast? = some quote := by
      simp [List.getLast?_cons]
    exact (last final (isBlank_of_isQuote quotes)).elim
  | .token (.word first letters starts continues) =>
    obtain ⟨d, final⟩ := Option.isSome_iff_exists.1 (by simp : (first :: letters).getLast?.isSome)
    have letter := continuesWord_of_mem starts continues (List.mem_of_getLast? final)
    exact (last final (isBlank_of_continuesWord letter)).elim
  | .token (.mark char visible unquoted wordless) => exact (last rfl visible).elim

/-- The last blank of a text can be left out. -/
theorem exists_shorter (munched : Munched fragments) (blank : isBlank c = true)
    (ends : spell fragments = chars ++ [c]) :
    ∃ shorter, Munched shorter ∧ spell shorter = chars ∧
      Alike (fragments.flatMap Fragment.lexemes) (shorter.flatMap Fragment.lexemes) := by
  induction fragments generalizing chars with
  | nil => simp [spell] at ends
  | cons fragment rest ih =>
    rw [spell_cons] at ends
    rcases List.eq_nil_or_concat' (spell rest) with nothing | ⟨more, d, behind⟩
    · obtain rfl := eq_nil_of_spell nothing
      rw [nothing, List.append_nil] at ends
      exact exists_shorter_fragment blank ends
    · rw [behind, ← List.append_assoc] at ends
      obtain ⟨rfl, same⟩ := List.append_inj' ends rfl
      obtain rfl : d = c := List.singleton_inj.1 same
      obtain ⟨shorter, munched', spelled, alike⟩ := ih munched.2 behind
      refine ⟨fragment :: shorter, ⟨?_, munched'⟩, ?_, ?_⟩
      · rw [spelled]
        exact (behind ▸ munched.1).of_append
      · rw [spell_cons, spelled]
      · rw [List.flatMap_cons, List.flatMap_cons]
        exact alike.append fragment.lexemes

/-- The blanks at the end of a text can be left out. -/
theorem exists_trimmedRight (munched : Munched fragments) :
    ∃ trimmed, Munched trimmed ∧ spell trimmed = Text.trimRight (spell fragments) ∧
      Alike (fragments.flatMap Fragment.lexemes) (trimmed.flatMap Fragment.lexemes) := by
  generalize text : spell fragments = chars
  induction chars using List.reverseRecOn generalizing fragments with
  | nil => exact ⟨fragments, munched, text, Alike.refl _⟩
  | append_singleton chars c ih =>
    rw [Text.trimRight_concat]
    split
    next blank =>
      obtain ⟨shorter, munched', text', alike⟩ := exists_shorter munched blank text
      obtain ⟨trimmed, munched'', trim, alike'⟩ := ih munched' text'
      exact ⟨trimmed, munched'', trim, alike.trans alike'⟩
    next => exact ⟨fragments, munched, text, Alike.refl _⟩

/-- A gap that nothing precedes does not count. -/
theorem ofLexemes_gap (text : List Char) (lexemes : List Lexeme) :
    Statement.ofLexemes (.gap text true :: lexemes) = Statement.ofLexemes lexemes := by
  have unstarted : joinTokens false true lexemes = joinTokens false false lexemes := by
    cases lexemes with
    | nil => rfl
    | cons lexeme rest => cases lexeme <;> rfl
  have words : (Lexeme.gap text true :: lexemes).filterMap identifier? =
      lexemes.filterMap identifier? := List.filterMap_cons_none rfl
  unfold Statement.ofLexemes
  rw [joinTokens_gap rfl, unstarted, words]
  simp [isClosed]

theorem ofLexemes_blanks (run : List Char) (lexemes : List Lexeme) :
    Statement.ofLexemes (run.map (fun c => .gap [c] true) ++ lexemes) =
      Statement.ofLexemes lexemes := by
  induction run with
  | nil => rfl
  | cons c run ih => rw [List.map_cons, List.cons_append, ofLexemes_gap, ih]

/-- What is not a run of blanks does not begin with one. -/
theorem dropWhile_spell
    (visible : ∀ run nonempty blank rest, fragments ≠ .gap (.blanks run nonempty blank) :: rest) :
    (spell fragments).dropWhile isBlank = spell fragments := by
  have begins {d : Char} {more : List Char} (h : isBlank d = false) :
      (d :: more).dropWhile isBlank = d :: more := by
    rw [List.dropWhile_cons_of_neg]
    simp [h]
  match fragments with
  | [] => rfl
  | .gap (.blanks run nonempty blank) :: rest => exact absurd rfl (visible run nonempty blank rest)
  | .gap (.lineComment _ _ _) :: rest => exact begins (by decide)
  | .gap (.blockComment _ _) :: rest => exact begins (by decide)
  | .token (.literal _ _ quotes) :: rest => exact begins (isBlank_of_isQuote quotes)
  | .token (.word _ _ starts _) :: rest =>
    exact begins (isBlank_of_continuesWord (continuesWord_of_startsWord starts))
  | .token (.mark _ visible _ _) :: rest => exact begins visible

/-- The blanks at the beginning of a text can be left out. -/
theorem exists_trimmedLeft (munched : Munched fragments) :
    ∃ trimmed, Munched trimmed ∧ spell trimmed = (spell fragments).dropWhile isBlank ∧
      Statement.ofLexemes (trimmed.flatMap Fragment.lexemes) =
        Statement.ofLexemes (fragments.flatMap Fragment.lexemes) := by
  induction fragments with
  | nil => exact ⟨[], trivial, rfl, rfl⟩
  | cons fragment rest ih =>
    by_cases blanks : ∃ run nonempty blank, fragment = .gap (.blanks run nonempty blank)
    · obtain ⟨run, nonempty, blank, rfl⟩ := blanks
      obtain ⟨trimmed, munched', text, same⟩ := ih munched.2
      refine ⟨trimmed, munched', ?_, ?_⟩
      · rw [text, spell_cons]
        exact (List.dropWhile_append_of_pos blank).symm
      · rw [same]
        exact (ofLexemes_blanks run (rest.flatMap Fragment.lexemes)).symm
    · refine ⟨fragment :: rest, munched, (dropWhile_spell ?_).symm, rfl⟩
      intro run nonempty blank rest' same
      exact blanks ⟨run, nonempty, blank, (List.cons.inj same).1⟩

/-- Preparing a text cuts it into its fragments, as if no blanks were at its ends. -/
theorem Statement.prepare_eq_ofLexemes (munched : Munched fragments) :
    prepare (String.ofList (spell fragments)) = ofLexemes (fragments.flatMap Fragment.lexemes) := by
  obtain ⟨left, munched', text, same⟩ := exists_trimmedLeft munched
  obtain ⟨trimmed, munched'', text', alike⟩ := exists_trimmedRight munched'
  rw [prepare, String.toList_ofList, Text.trim, ← text, ← text', cut_spell munched'',
    alike.ofLexemes_eq, same]

end DurableStore
