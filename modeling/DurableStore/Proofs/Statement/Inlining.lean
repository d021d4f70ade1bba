import DurableStore.Proofs.Statement.Fragments
import DurableStore.Proofs.Statement.Normalization

/-!
A text value written out inside a statement.

The literal of a text is a single quotation whatever the text holds, because every quote in it is
written twice.  Between blanks it is a token of its own: what stands in front of it is cut as it is
alone (`cut_append`), and so is what stands behind it.  Writing a text into a complete statement
therefore adds this one token and changes nothing else (`prepare_inlined`): no comment is opened, no
parameter or construct comes or goes, and different texts give different statements.
-/

namespace DurableStore

open Lexeme
open Text (isBlank trim trimRight)

/-! ## Blanks at the end of a text -/

namespace Text

variable {front text : List Char}

/-- What is left of a text without the blanks at its end begins as the text does. -/
theorem head?_trimRight {c d : Char} {rest : List Char}
    (first : (trimRight (c :: rest)).head? = some d) : d = c := by
  have before : trimRight (c :: rest) <+: c :: rest := by
    unfold trimRight
    rw [← List.reverse_suffix, List.reverse_reverse]
    exact List.dropWhile_suffix isBlank
  obtain ⟨more, whole⟩ := before
  have begins : (c :: rest).head? = some d := by
    rw [← whole, List.head?_append, first]
    rfl
  exact (Option.some.inj begins).symm

/-- Trimming reaches no further than to the last visible character. -/
theorem trimRight_append (visible : ∀ c, front.getLast? = some c → isBlank c = false)
    (rest : List Char) : trimRight (front ++ rest) = front ++ trimRight rest := by
  induction rest using List.reverseRecOn with
  | nil =>
    show trimRight (front ++ []) = front ++ []
    rw [List.append_nil]
    rcases List.eq_nil_or_concat' front with rfl | ⟨before, c, rfl⟩
    · rfl
    · have last : isBlank c = false := visible c List.getLast?_concat
      rw [trimRight_concat, last]
      rfl
  | append_singleton rest c ih =>
    rw [← List.append_assoc, trimRight_concat, trimRight_concat, ih]
    split
    next => rfl
    next => rw [List.append_assoc]

theorem trimRight_of_blank (blank : ∀ c ∈ text, isBlank c = true) : trimRight text = [] := by
  induction text using List.reverseRecOn with
  | nil => rfl
  | append_singleton rest c ih =>
    have last : isBlank c = true := blank c (by simp)
    rw [trimRight_concat, last, if_pos rfl]
    exact ih fun d member => blank d (List.mem_append_left _ member)

/-- What is left without the blanks at the end has blanks in front of what is left without those at
both ends. -/
theorem exists_blanks_trimRight (text : List Char) :
    ∃ run, (∀ c ∈ run, isBlank c = true) ∧ trimRight text = run ++ trim text := by
  have blank : ∀ c ∈ text.takeWhile isBlank, isBlank c = true := fun c => List.mem_takeWhile_imp
  have whole := List.takeWhile_append_dropWhile (p := isBlank) (l := text)
  unfold trim
  cases visible : text.dropWhile isBlank with
  | nil =>
    rw [visible, List.append_nil] at whole
    refine ⟨[], by simp, ?_⟩
    rw [trimRight_of_blank (whole ▸ blank)]
    rfl
  | cons c rest =>
    -- The first visible character stops the trimming in both texts.
    have first : isBlank c = false := by
      have stops := List.head?_dropWhile_not isBlank text
      rwa [visible] at stops
    have stops (run : List Char) :
        ∀ d, (run ++ [c]).getLast? = some d → isBlank d = false := by
      intro d last
      rw [List.getLast?_concat] at last
      cases last
      exact first
    refine ⟨text.takeWhile isBlank, blank, ?_⟩
    have alone : trimRight (c :: rest) = c :: trimRight rest :=
      trimRight_append (stops []) rest
    calc trimRight text
        = trimRight (text.takeWhile isBlank ++ [c] ++ rest) := by
          rw [List.append_assoc, List.singleton_append, ← visible, whole]
      _ = text.takeWhile isBlank ++ [c] ++ trimRight rest := trimRight_append (stops _) rest
      _ = text.takeWhile isBlank ++ trimRight (c :: rest) := by rw [alone, List.append_assoc]; rfl

end Text

/-! ## Cutting two texts one behind the other -/

/-- The lexeme ends by itself wherever a blank follows: a closed token, or a single space. -/
def SelfContained (lexeme : Lexeme) : Prop :=
  lexeme = .gap [' '] true ∨ lexeme.isGap = false ∧ lexeme.isClosed = true

variable {chars rest : List Char} {lexemes : List Lexeme}

/-- **Two texts are cut apart** if a blank comes between them and the first one leaves nothing
open. -/
theorem cut_append (near : ∀ d, rest.head? = some d → isBlank d = true)
    (contained : ∀ lexeme ∈ cut chars, SelfContained lexeme) :
    cut (chars ++ rest) = cut chars ++ cut rest := by
  induction chars using cut.induct with
  | case1 => simp [cut]
  | case2 c tail _ ih =>
    rw [cut] at contained ⊢
    -- The first lexeme is cut off as before, because the same character or a blank follows it.
    have near' : ∀ d, ((next c tail).2 ++ rest).head? = some d →
        isBlank d = true ∨ (next c tail).2.head? = some d := by
      intro d first
      rw [List.head?_append] at first
      cases behind : (next c tail).2.head? with
      | some e =>
        rw [behind] at first
        exact .inr first
      | none =>
        rw [behind] at first
        exact .inl (near d first)
    have leads : (next c tail).1.Leads ((next c tail).2 ++ rest) := by
      rcases contained _ List.mem_cons_self with space | ⟨token, closed⟩
      · rw [space]
        exact leads_blank (by decide) _
      · exact ((leads_next c tail).tokenBefore token).onto closed near'
    have behind : ∀ lexeme ∈ cut (next c tail).2, SelfContained lexeme :=
      fun lexeme member => contained lexeme (List.mem_cons_of_mem _ member)
    rw [← next_append c tail, List.append_assoc, leads.cut, ih behind]
    rfl

/-- The lexemes of a normalized text that leaves nothing open are self-contained. -/
theorem selfContained_squeeze (started pending : Bool) (closed : lexemes.all isClosed = true) :
    ∀ lexeme ∈ squeeze started pending lexemes, SelfContained lexeme := by
  induction lexemes generalizing started pending with
  | nil => simp [squeeze]
  | cons lexeme rest ih =>
    rw [List.all_cons, Bool.and_eq_true] at closed
    intro other member
    cases kind : lexeme.isGap with
    | true =>
      rw [squeeze_gap kind] at member
      exact ih started true closed.2 other member
    | false =>
      rw [squeeze_token kind] at member
      rcases List.mem_append.1 member with space | member
      · split at space
        next => exact .inl (List.mem_singleton.1 space)
        next => cases space
      · rcases List.mem_cons.1 member with rfl | member
        · exact .inr ⟨kind, closed.1⟩
        · exact ih true false closed.2 other member

/-! ## One more token between others -/

/-- A token between gaps stands in the normalized text between what the others make of it. -/
theorem joinTokens_between {token gap : Lexeme} (kind : token.isGap = false)
    (separates : gap.isGap = true) (started pending : Bool) (front behind : List Lexeme) :
    joinTokens started pending (front ++ gap :: token :: behind) =
      joinTokens started pending front ++
        (if started || front.any (!·.isGap) then [' '] else []) ++ token.text ++
        joinTokens true false behind := by
  induction front generalizing started pending with
  | nil =>
    rw [List.nil_append, joinTokens_gap separates, joinTokens_token kind]
    simp [joinTokens]
  | cons lexeme front ih =>
    rw [List.cons_append]
    cases first : lexeme.isGap with
    | true =>
      rw [joinTokens_gap first, joinTokens_gap first, ih]
      simp [first]
    | false =>
      rw [joinTokens_token first, joinTokens_token first, ih]
      simp [first]

namespace Statement

variable {front back : String}

/-- The blanks in front of a text do not count. -/
theorem ofLexemes_trimRight (text : List Char) :
    ofLexemes (cut (trimRight text)) = ofLexemes (cut (trim text)) := by
  obtain ⟨run, blank, split⟩ := Text.exists_blanks_trimRight text
  rw [split, cut_blanks blank, ofLexemes_blanks]

theorem prepare_eq_trimRight (sql : String) :
    prepare sql = ofLexemes (cut (trimRight sql.toList)) :=
  (ofLexemes_trimRight sql.toList).symm

/-- The normalized text of a statement is cut into its squeezed lexemes. -/
theorem cut_text (sql : String) :
    cut (prepare sql).text.toList = squeeze false false (cut (trim sql.toList)) := by
  rw [← cut_joinTokens]
  simp [prepare, ofLexemes]

/-- **Behind a complete statement** everything that begins with a space is cut as it is alone. -/
theorem prepare_text_append (complete : (prepare front).complete = true) (rest : List Char) :
    prepare ((prepare front).text ++ String.ofList (' ' :: rest)) =
      ofLexemes (cut (prepare front).text.toList ++ cut (trimRight (' ' :: rest))) := by
  have visible : ∀ c, (prepare front).text.toList.getLast? = some c → isBlank c = false := by
    intro c last
    have joined : (joinTokens false false (cut (trim front.toList))).getLast? = some c := by
      simpa [prepare, ofLexemes] using last
    exact getLast?_joinTokens (fun d ends => Text.isBlank_of_getLast?_trim ends) joined
  have near : ∀ d, (trimRight (' ' :: rest)).head? = some d → isBlank d = true := by
    intro d first
    rw [Text.head?_trimRight first]
    decide
  have contained : ∀ lexeme ∈ cut (prepare front).text.toList, SelfContained lexeme := by
    rw [cut_text]
    exact selfContained_squeeze false false complete
  rw [prepare_eq_trimRight, String.toList_append, String.toList_ofList,
    Text.trimRight_append visible, cut_append near contained]

/-! ## Literals of texts -/

/-- Two texts with the literal of a value between them, and a space on each side of it. -/
def inlined (front : String) (value : Value) (back : String) : String :=
  front ++ " " ++ value.literal ++ " " ++ back

/-- The literal of a text is the text between single quotes, with every one inside written twice. -/
theorem toList_literal (content : String) :
    (Value.text content).literal.toList = '\'' :: doubled '\'' content.toList ++ ['\''] := by
  simp [Value.literal, Value.doubleQuotes, doubled]

theorem doubled_cons (quote c : Char) (content : List Char) :
    doubled quote (c :: content) =
      (if c = quote then [quote, quote] else [c]) ++ doubled quote content := rfl

/-- A content can be read off what is written for it. -/
theorem doubled_injective {quote : Char} {content other : List Char}
    (same : doubled quote content = doubled quote other) : content = other := by
  induction content generalizing other with
  | nil =>
    cases other with
    | nil => rfl
    | cons d other =>
      rw [doubled_cons] at same
      split at same <;> simp [doubled] at same
  | cons c content ih =>
    cases other with
    | nil =>
      rw [doubled_cons] at same
      split at same <;> simp [doubled] at same
    | cons d other =>
      -- Either both begin with the quote, and then with two, or neither does.
      rw [doubled_cons, doubled_cons] at same
      by_cases first : c = quote
      · by_cases first' : d = quote
        · rw [if_pos first, if_pos first', List.append_right_inj] at same
          rw [first, first', ih same]
        · rw [if_pos first, if_neg first'] at same
          exact absurd (List.cons.inj same).1.symm first'
      · by_cases first' : d = quote
        · rw [if_neg first, if_pos first'] at same
          exact absurd (List.cons.inj same).1 first
        · rw [if_neg first, if_neg first'] at same
          obtain ⟨rfl, behind⟩ := List.cons.inj same
          rw [ih behind]

/-- Different texts have different literals. -/
theorem literal_text_injective {content other : String}
    (same : (Value.text content).literal.toList = (Value.text other).literal.toList) :
    content = other := by
  rw [toList_literal, toList_literal, List.append_left_inj] at same
  exact String.toList_inj.1 (doubled_injective (List.cons.inj same).2)

/-- The statement without the literal. -/
theorem prepare_text_space (complete : (prepare front).complete = true) (back : String) :
    prepare ((prepare front).text ++ " " ++ back) =
      ofLexemes (cut (prepare front).text.toList ++ cut (trimRight (' ' :: back.toList))) := by
  rw [← prepare_text_append complete]
  congr 1
  simp [← String.toList_inj]

/-- **The literal is one more token** of the statement, with a gap in front of it. -/
theorem prepare_inlined_text (complete : (prepare front).complete = true) (content back : String) :
    prepare (inlined (prepare front).text (.text content) back) =
      ofLexemes (cut (prepare front).text.toList ++ .gap [' '] true ::
        .quoted (Value.text content).literal.toList true ::
          cut (trimRight (' ' :: back.toList))) := by
  let behind := trimRight (' ' :: back.toList)
  let literal : Fragment := .token (.literal '\'' content.toList (by decide))
  have spelled : (Value.text content).literal.toList = literal.spelling := toList_literal content
  have whole : inlined (prepare front).text (.text content) back =
      (prepare front).text ++ String.ofList (' ' :: (literal.spelling ++ ' ' :: back.toList)) := by
    rw [← spelled]
    simp [inlined, ← String.toList_inj]
  have last : ∀ c, (' ' :: literal.spelling).getLast? = some c → isBlank c = false := by
    intro c ends
    have final : (' ' :: literal.spelling).getLast? = some '\'' := by
      simp [literal, Fragment.spelling, List.getLast?_cons]
    rw [final] at ends
    cases ends
    decide
  have apart : literal.MayPrecede behind := by
    intro quote
    have space : '\'' = ' ' := Text.head?_trimRight quote
    exact absurd space (by decide)
  have trimmed : trimRight (' ' :: (literal.spelling ++ ' ' :: back.toList)) =
      ' ' :: (literal.spelling ++ behind) := Text.trimRight_append last _
  rw [whole, prepare_text_append complete, trimmed, ← List.singleton_append, cut_space,
    Fragment.cut_spelling apart, spelled]
  rfl

/-- The literal divides the normalized text in two parts that do not depend on it. -/
theorem text_inlined (complete : (prepare front).complete = true) (content back : String) :
    (prepare (inlined (prepare front).text (.text content) back)).text.toList =
      joinTokens false false (cut (prepare front).text.toList) ++
        (if (cut (prepare front).text.toList).any (!·.isGap) then [' '] else []) ++
        (Value.text content).literal.toList ++
        joinTokens true false (cut (trimRight (' ' :: back.toList))) := by
  rw [prepare_inlined_text complete, ofLexemes, String.toList_ofList]
  exact joinTokens_between rfl rfl false false _ _

/-- **A text written into a statement** leaves everything else of the statement as it is.  Between a
complete statement and more text that is complete by itself, the literal stands in the normalized
text as it is; the parameters and constructs are those of the statement without it; nothing is left
open; and no other text gives the same statement. -/
theorem prepare_inlined {front back : String} (complete : (prepare front).complete = true)
    (complete' : (prepare back).complete = true) (content : String) :
    (prepare (inlined (prepare front).text (.text content) back)).complete = true ∧
      (prepare (inlined (prepare front).text (.text content) back)).params =
        (prepare ((prepare front).text ++ " " ++ back)).params ∧
      (prepare (inlined (prepare front).text (.text content) back)).constructs =
        (prepare ((prepare front).text ++ " " ++ back)).constructs ∧
      (Value.text content).literal.toList <:+:
        (prepare (inlined (prepare front).text (.text content) back)).text.toList ∧
      ∀ other, (prepare (inlined (prepare front).text (.text other) back)).text =
        (prepare (inlined (prepare front).text (.text content) back)).text → other = content := by
  have frontClosed : (cut (prepare front).text.toList).all isClosed = true := by
    rw [cut_text]
    exact all_isClosed_squeeze false false complete
  have behindClosed : (cut (trimRight (' ' :: back.toList))).all isClosed = true := by
    show (ofLexemes (cut (trimRight (' ' :: back.toList)))).complete = true
    rw [ofLexemes_trimRight]
    exact complete'
  refine ⟨?_, ?_, ?_, ?_, ?_⟩
  · rw [prepare_inlined_text complete]
    simp [ofLexemes, frontClosed, behindClosed, isClosed]
  · rw [prepare_inlined_text complete, prepare_text_space complete]
    simp [ofLexemes]
  · rw [prepare_inlined_text complete, prepare_text_space complete]
    simp only [ofLexemes, List.filterMap_append, List.filterMap_cons, identifier?]
  · exact ⟨_, _, (text_inlined complete content back).symm⟩
  · intro other same
    have texts := congrArg String.toList same
    rw [text_inlined complete, text_inlined complete, List.append_left_inj,
      List.append_right_inj] at texts
    exact literal_text_injective texts

/-- A statement that ends with a name between quotes. -/
def endsQuoted : String := "SELECT x -- old\n, RAND() FROM t WHERE a = ? AND b = \"it\"\"s\""

/-- More of a statement, which begins with a literal. -/
def beginsQuoted : String := "'' /* now */ AND c < NOW() AND d = ?"

/-- A text with quotes at its ends, comment openers, a question mark, a line end and a call. -/
def hostile : String := "' OR ? = UUID() -- '' /*\n'"

theorem prepare_inlined_hostile :
    (prepare endsQuoted).complete = true ∧ (prepare beginsQuoted).complete = true ∧
      (Value.text hostile).literal = "''' OR ? = UUID() -- '''' /*\n'''" ∧
      (prepare (inlined (prepare endsQuoted).text (.text hostile) beginsQuoted)).complete = true ∧
      (prepare (inlined (prepare endsQuoted).text (.text hostile) beginsQuoted)).params =
        [.null, .null] ∧
      (prepare (inlined (prepare endsQuoted).text (.text hostile) beginsQuoted)).constructs =
        [.random, .currentTime] ∧
      (prepare (inlined (prepare endsQuoted).text (.text "") beginsQuoted)).text ≠
        (prepare (inlined (prepare endsQuoted).text (.text hostile) beginsQuoted)).text := by
  have complete : (prepare endsQuoted).complete = true := by decide +kernel
  have complete' : (prepare beginsQuoted).complete = true := by decide +kernel
  obtain ⟨closed, params, constructs, -, alone⟩ := prepare_inlined complete complete' hostile
  have differs : ("" : String) ≠ hostile := by decide
  refine ⟨complete, complete', by decide +kernel, closed, ?_, ?_, ?_⟩
  · rw [params]
    decide +kernel
  · rw [constructs]
    decide +kernel
  · exact fun same => differs (alone "" same)

end Statement

end DurableStore
