import DurableStore.Proofs.Statement.Cutting

/-!
Preparing a statement's normalized text again.

The normalized text is made of the same tokens in the same order, with a single blank in the place
of the gaps between two of them (`squeeze`).  Cutting it gives exactly these lexemes back
(`cut_joinTokens`): a token ends where it ended, because a blank or the character that it stood in
front of comes next.  So normalizing once more changes nothing, and what a complete statement means
is settled by its normalized text (`prepare_text_again`).
-/

namespace DurableStore

open Lexeme
open Text (isBlank)

/-! ## Squeezed lexemes -/

/-- The tokens among `lexemes`, with one blank where `joinTokens` has a space. -/
def squeeze (started pending : Bool) : List Lexeme → List Lexeme
  | [] => []
  | .gap _ _ :: rest => squeeze started true rest
  | token :: rest =>
    (if started && pending then [.gap [' '] true] else []) ++ token :: squeeze true false rest

/-- The lexemes that separate nothing. -/
def tokens (lexemes : List Lexeme) : List Lexeme :=
  lexemes.filter fun lexeme => !lexeme.isGap

variable {started pending : Bool} {lexeme : Lexeme} {lexemes : List Lexeme} {c : Char}
  {chars : List Char}

theorem squeeze_gap (gap : lexeme.isGap = true) (started pending : Bool)
    (lexemes : List Lexeme) :
    squeeze started pending (lexeme :: lexemes) = squeeze started true lexemes := by
  cases lexeme with
  | gap => rfl
  | quoted | parameter | word | symbol => cases gap

theorem squeeze_token (token : lexeme.isGap = false) (started pending : Bool)
    (lexemes : List Lexeme) :
    squeeze started pending (lexeme :: lexemes) =
      (if started && pending then [.gap [' '] true] else []) ++
        lexeme :: squeeze true false lexemes := by
  cases lexeme with
  | gap => cases token
  | quoted | parameter | word | symbol => rfl

/-- Squeezing loses no token. -/
theorem tokens_squeeze (started pending : Bool) (lexemes : List Lexeme) :
    tokens (squeeze started pending lexemes) = tokens lexemes := by
  induction lexemes generalizing started pending with
  | nil => rfl
  | cons lexeme rest ih =>
    unfold tokens at ih ⊢
    cases kind : lexeme.isGap with
    | true => simp [squeeze_gap kind, ih, kind]
    | false =>
      rw [squeeze_token kind]
      split
      next => simp [ih, kind]
      next => simp [ih, kind]

theorem joinTokens_squeeze (started pending : Bool) (lexemes : List Lexeme) :
    joinTokens started false (squeeze started pending lexemes) =
      joinTokens started pending lexemes := by
  induction lexemes generalizing started pending with
  | nil => rfl
  | cons lexeme rest ih =>
    cases kind : lexeme.isGap with
    | true => rw [squeeze_gap kind, joinTokens_gap kind, ih]
    | false =>
      rw [squeeze_token kind, joinTokens_token kind]
      cases space : started && pending with
      | false => simp [joinTokens_token kind, ih]
      | true =>
        obtain ⟨rfl, rfl⟩ : started = true ∧ pending = true := by simpa using space
        rw [if_pos rfl, if_pos rfl, List.singleton_append, joinTokens_gap rfl,
          joinTokens_token kind, ih]
        rfl

theorem filterMap_tokens (lexemes : List Lexeme) :
    (tokens lexemes).filterMap identifier? = lexemes.filterMap identifier? := by
  unfold tokens
  rw [List.filterMap_filter]
  congr 1
  funext lexeme
  cases lexeme with
  | gap | quoted | parameter | word | symbol => rfl

theorem count_tokens (lexemes : List Lexeme) :
    (tokens lexemes).count .parameter = lexemes.count .parameter :=
  List.count_filter rfl

theorem all_isClosed_squeeze (started pending : Bool) (closed : lexemes.all isClosed = true) :
    (squeeze started pending lexemes).all isClosed = true := by
  induction lexemes generalizing started pending with
  | nil => rfl
  | cons lexeme rest ih =>
    rw [List.all_cons, Bool.and_eq_true] at closed
    cases kind : lexeme.isGap with
    | true =>
      rw [squeeze_gap kind]
      exact ih started true closed.2
    | false =>
      rw [squeeze_token kind, List.all_append, List.all_cons, closed.1, ih true false closed.2]
      split <;> rfl

/-! ## What follows a token in the normalized text -/

/-- A blank is the first thing that comes after a gap. -/
theorem head?_joinTokens_pending (h : (joinTokens true true lexemes).head? = some c) : c = ' ' := by
  induction lexemes with
  | nil => cases h
  | cons lexeme rest ih =>
    cases kind : lexeme.isGap with
    | true => exact ih (joinTokens_gap kind true true rest ▸ h)
    | false =>
      rw [joinTokens_token kind] at h
      exact (Option.some.inj h).symm

/-- A blank or what came before is the first thing that comes after a token. -/
theorem head?_joinTokens_cut (h : (joinTokens true false (cut chars)).head? = some c) :
    isBlank c = true ∨ chars.head? = some c := by
  cases chars with
  | nil =>
    rw [cut] at h
    cases h
  | cons d rest =>
    rw [cut] at h
    cases kind : (next d rest).1.isGap with
    | true =>
      rw [joinTokens_gap kind] at h
      rw [head?_joinTokens_pending h]
      exact .inl (by decide)
    | false =>
      -- The text of the first lexeme begins as the whole text does.
      obtain ⟨e, text, first⟩ := List.exists_cons_of_ne_nil (text_next_ne_nil d rest)
      rw [joinTokens_token kind, if_neg (by simp), List.nil_append, first] at h
      right
      rw [← next_append d rest, first]
      exact h

theorem cut_space (chars : List Char) : cut ([' '] ++ chars) = gap [' '] true :: cut chars :=
  (leads_blank (by decide) chars).cut

/-- **Cutting the normalized text** gives its tokens back, and a blank for each space. -/
theorem cut_joinTokens (started pending : Bool) (chars : List Char) :
    cut (joinTokens started pending (cut chars)) = squeeze started pending (cut chars) := by
  induction chars using cut.induct generalizing started pending with
  | case1 => simp [cut, joinTokens, squeeze]
  | case2 c rest _ ih =>
    rw [cut]
    cases kind : (next c rest).1.isGap with
    | true => rw [joinTokens_gap kind, squeeze_gap kind, ih]
    | false =>
      have leads : (next c rest).1.Leads (joinTokens true false (cut (next c rest).2)) := by
        have before := leads_next c rest
        have token := before.tokenBefore kind
        cases closed : (next c rest).1.isClosed with
        | true => exact token.onto closed fun d => head?_joinTokens_cut
        | false =>
          have ends := token.rest_of_open closed
          rw [ends] at before ⊢
          rw [cut]
          exact before
      rw [joinTokens_token kind, squeeze_token kind]
      split
      next => rw [cut_space, leads.cut, ih, List.singleton_append]
      next => rw [List.nil_append, List.nil_append, leads.cut, ih]

/-! ## The ends of the normalized text -/

/-- The last lexeme of a text ends where the text ends, and what is left ends there too. -/
theorem getLast?_next (h : (next c chars).2.getLast? = some d) :
    (c :: chars).getLast? = some d := by
  rw [← next_append c chars, List.getLast?_append, h]
  rfl

/-- The normalized text does not begin with a blank. -/
theorem head?_joinTokens (h : (joinTokens false pending (cut chars)).head? = some c) :
    isBlank c = false := by
  induction chars using cut.induct generalizing pending with
  | case1 => simp [cut, joinTokens] at h
  | case2 d rest _ ih =>
    rw [cut] at h
    cases kind : (next d rest).1.isGap with
    | true => exact ih (joinTokens_gap kind false pending _ ▸ h)
    | false =>
      obtain ⟨e, more, text⟩ := List.exists_cons_of_ne_nil (text_next_ne_nil d rest)
      rw [joinTokens_token kind, if_neg (by simp), List.nil_append, text] at h
      exact ((leads_next d rest).tokenBefore kind).head?_text (text ▸ h)

/-- The normalized text ends with a blank only if the text itself does. -/
theorem getLast?_joinTokens (last : ∀ d, chars.getLast? = some d → isBlank d = false)
    (h : (joinTokens started pending (cut chars)).getLast? = some c) : isBlank c = false := by
  induction chars using cut.induct generalizing started pending with
  | case1 => simp [cut, joinTokens] at h
  | case2 d rest _ ih =>
    rw [cut] at h
    have behind : ∀ e, (next d rest).2.getLast? = some e → isBlank e = false :=
      fun e ends => last e (getLast?_next ends)
    cases kind : (next d rest).1.isGap with
    | true => exact ih behind (joinTokens_gap kind started pending _ ▸ h)
    | false =>
      rw [joinTokens_token kind, List.getLast?_append, List.getLast?_append] at h
      cases ends : (joinTokens true false (cut (next d rest).2)).getLast? with
      | some e =>
        rw [ends] at h
        cases h
        exact ih behind ends
      | none =>
        -- Nothing but gaps follows, so the text ends with this token.
        have final : (next d rest).1.text.getLast? = some c := by
          rw [ends] at h
          simpa [List.getLast?_eq_none_iff, text_next_ne_nil] using h
        have token := (leads_next d rest).tokenBefore kind
        cases closed : (next d rest).1.isClosed with
        | true => exact token.getLast?_text closed final
        | false =>
          have nothing := token.rest_of_open closed
          have whole := next_append d rest
          rw [nothing, List.append_nil] at whole
          exact last c (whole ▸ final)

/-! ## Preparing again -/

namespace Statement

theorem trim_normalized (sql : String) :
    Text.trim (prepare sql).text.toList = (prepare sql).text.toList := by
  refine Text.trim_eq_self ?_ ?_
  · intro c first
    exact head?_joinTokens (by simpa [prepare, ofLexemes] using first)
  · intro c last
    refine getLast?_joinTokens (fun d ends => Text.isBlank_of_getLast?_trim ends)
      (by simpa [prepare, ofLexemes] using last)

/-- Preparing the normalized text cuts it into the squeezed lexemes. -/
theorem prepare_text (sql : String) :
    prepare (prepare sql).text =
      ofLexemes (squeeze false false (cut (Text.trim sql.toList))) := by
  have text : (prepare sql).text.toList = joinTokens false false (cut (Text.trim sql.toList)) := by
    simp [prepare, ofLexemes]
  rw [prepare, trim_normalized, text, cut_joinTokens]

theorem text_squeeze (lexemes : List Lexeme) :
    (ofLexemes (squeeze false false lexemes)).text = (ofLexemes lexemes).text := by
  simp only [ofLexemes, joinTokens_squeeze]

theorem constructs_squeeze (lexemes : List Lexeme) :
    (ofLexemes (squeeze false false lexemes)).constructs = (ofLexemes lexemes).constructs := by
  simp only [ofLexemes]
  rw [← filterMap_tokens, tokens_squeeze, filterMap_tokens]

theorem params_squeeze (lexemes : List Lexeme) :
    (ofLexemes (squeeze false false lexemes)).params = (ofLexemes lexemes).params := by
  simp only [ofLexemes]
  rw [← count_tokens, tokens_squeeze, count_tokens]

theorem ofLexemes_squeeze (closed : (ofLexemes lexemes).complete = true) :
    ofLexemes (squeeze false false lexemes) = ofLexemes lexemes := by
  have complete := all_isClosed_squeeze false false closed
  rw [Statement.mk.injEq]
  exact ⟨text_squeeze lexemes, constructs_squeeze lexemes, params_squeeze lexemes,
    complete.trans closed.symm⟩

/-- **Preparing the normalized text again** gives the same text, constructs and parameters, and the
same statement if every quotation and comment was closed.  Complete statements with the same text
are therefore the same. -/
theorem prepare_text_again (sql : String) :
    (prepare (prepare sql).text).text = (prepare sql).text ∧
      (prepare (prepare sql).text).constructs = (prepare sql).constructs ∧
      (prepare (prepare sql).text).params = (prepare sql).params ∧
      ((prepare sql).complete = true → prepare (prepare sql).text = prepare sql) ∧
      ∀ other, (prepare sql).complete = true → (prepare other).complete = true →
        (prepare other).text = (prepare sql).text → prepare other = prepare sql := by
  have again {sql : String} (complete : (prepare sql).complete = true) :
      prepare (prepare sql).text = prepare sql := by
    rw [prepare_text]
    exact ofLexemes_squeeze complete
  refine ⟨?_, ?_, ?_, again, ?_⟩
  · rw [prepare_text, text_squeeze, prepare]
  · rw [prepare_text, constructs_squeeze, prepare]
  · rw [prepare_text, params_squeeze, prepare]
  · intro other complete complete' same
    rw [← again complete, ← again complete', same]

/-- A quote stands in the comment of either statement. -/
def lineCommented : String := "SELECT x -- don't cache\n, NOW() FROM t WHERE y = ?"

/-- The same statement, laid out in another way. -/
def blockCommented : String := " SELECT x/* it's new */, NOW()\tFROM  t WHERE y = ? "

/-- Both ask for the time and have one parameter, so neither may be cached, and neither may be what
their text is prepared to again. -/
theorem prepare_text_again_commented :
    (prepare lineCommented).complete = true ∧ (prepare blockCommented).complete = true ∧
      (prepare blockCommented).text = (prepare lineCommented).text ∧
      (prepare lineCommented).text = "SELECT x , NOW() FROM t WHERE y = ?" ∧
      prepare (prepare lineCommented).text = prepare lineCommented ∧
      prepare blockCommented = prepare lineCommented ∧
      (prepare lineCommented).constructs = [.currentTime] ∧
      (prepare lineCommented).params = [.null] ∧ (prepare lineCommented).isCacheable = false := by
  have complete : (prepare lineCommented).complete = true := by decide +kernel
  have complete' : (prepare blockCommented).complete = true := by decide +kernel
  have same : (prepare blockCommented).text = (prepare lineCommented).text := by decide +kernel
  obtain ⟨-, -, -, again, alike⟩ := prepare_text_again lineCommented
  exact ⟨complete, complete', same, by decide +kernel, again complete,
    alike blockCommented complete complete' same, by decide +kernel, by decide +kernel,
    by decide +kernel⟩

/-- A comment that is never closed leaves nothing behind that tells of it. -/
example : (prepare "x /* y").complete = false ∧
    (prepare (prepare "x /* y").text).complete = true := by
  decide +kernel

end Statement

end DurableStore
