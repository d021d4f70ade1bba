import DurableStore.Proofs.Statement.Fragments

/-!
What preparing gives for a text of gaps and tokens.

The normalized text is the runs of tokens between the gaps, with one space between two runs
(`normalized`).  The constructs are those that the identifiers denote, each in the place where it
appears first (`Construct.denoted`).  Together they are all that preparing makes of the text
(`Statement.prepare_spell`), whatever stands in its comments and literals.
-/

namespace DurableStore

open Lexeme

/-- The runs of tokens between gaps. -/
def tokenRuns (fragments : List Fragment) : List (List Fragment) :=
  (fragments.splitOnP Fragment.isGap).filter fun run => !run.isEmpty

/-- The tokens, with one space wherever a gap lies between two of them. -/
def normalized (fragments : List Fragment) : List Char :=
  [' '].intercalate ((tokenRuns fragments).map spell)

/-- The constructs that the identifiers denote, in order of first appearance; a sequence's next
value comes last if nothing but three identifiers in a row denotes it. -/
def Construct.denoted (identifiers : List String) : List Construct :=
  let named := (identifiers.filterMap ofIdentifier?).eraseDups
  if ["NEXT", "VALUE", "FOR"] <:+: identifiers ∧ .sequenceNextValue ∉ named then
    named ++ [.sequenceNextValue]
  else named

variable {fragment : Fragment} {fragments : List Fragment}

/-! ## Reading the fragments -/

namespace Fragment

theorem joinTokens_blanks (started : Bool) (run : List Char) (more : List Lexeme) :
    joinTokens started true (run.map (fun c => .gap [c] true) ++ more) =
      joinTokens started true more := by
  induction run with
  | nil => rfl
  | cons c run ih => rw [List.map_cons, List.cons_append, DurableStore.joinTokens_gap rfl, ih]

theorem joinTokens_gap (gap : fragment.isGap = true) (started pending : Bool) (more : List Lexeme) :
    joinTokens started pending (fragment.lexemes ++ more) = joinTokens started true more := by
  match fragment with
  | .gap (.blanks run nonempty _) =>
    cases run with
    | nil => exact absurd rfl nonempty
    | cons c run => exact joinTokens_blanks started run more
  | .gap (.lineComment _ _ _) | .gap (.blockComment _ _) => rfl

theorem joinTokens_token (token : fragment.isGap = false) (started pending : Bool)
    (more : List Lexeme) :
    joinTokens started pending (fragment.lexemes ++ more) =
      (if started && pending then [' '] else []) ++
        (fragment.spelling ++ joinTokens true false more) := by
  rw [← List.append_assoc]
  match fragment with
  | .token (.literal _ _ _) | .token (.word _ _ _ _) => rfl
  | .token (.mark char _ _ _) =>
    by_cases parameter : char = '?'
    · subst parameter
      rfl
    · simp only [lexemes, parameter, if_false]
      rfl

theorem identifiers (fragment : Fragment) :
    fragment.lexemes.filterMap Lexeme.identifier? = fragment.identifier?.toList := by
  match fragment with
  | .gap (.blanks _ _ _) => simp [lexemes, identifier?, Lexeme.identifier?]
  | .gap (.lineComment _ _ _) | .gap (.blockComment _ _) => rfl
  | .token (.literal _ _ _) | .token (.word _ _ _ _) => rfl
  | .token (.mark char _ _ _) =>
    by_cases parameter : char = '?'
    · simp [lexemes, identifier?, parameter, Lexeme.identifier?]
    · simp [lexemes, identifier?, parameter, Lexeme.identifier?]

theorem parameters (fragment : Fragment) :
    fragment.lexemes.count .parameter = if fragment.isParameter then 1 else 0 := by
  match fragment with
  | .gap (.blanks _ _ _) => simp [lexemes, isParameter, List.count_eq_zero]
  | .gap (.lineComment _ _ _) | .gap (.blockComment _ _) => rfl
  | .token (.literal _ _ _) | .token (.word _ _ _ _) => rfl
  | .token (.mark char _ _ _) =>
    by_cases parameter : char = '?'
    · simp [lexemes, isParameter, parameter]
    · simp [lexemes, isParameter, parameter]

theorem closed (fragment : Fragment) : fragment.lexemes.all Lexeme.isClosed = true := by
  match fragment with
  | .gap (.blanks _ _ _) => simp [lexemes, isClosed]
  | .gap (.lineComment _ _ _) | .gap (.blockComment _ _) => rfl
  | .token (.literal _ _ _) | .token (.word _ _ _ _) => rfl
  | .token (.mark char _ _ _) =>
    by_cases parameter : char = '?'
    · simp [lexemes, parameter, isClosed]
    · simp [lexemes, parameter, isClosed]

end Fragment

/-- Runs of tokens with a space in front of each. -/
def spaced (runs : List (List Fragment)) : List Char :=
  (runs.filter fun run => !run.isEmpty).flatMap fun run => ' ' :: spell run

variable {run : List Fragment} {runs : List (List Fragment)}

@[simp] theorem spaced_cons_nil (runs : List (List Fragment)) :
    spaced ([] :: runs) = spaced runs := rfl

@[simp] theorem spaced_cons_cons (fragment : Fragment) (run : List Fragment)
    (runs : List (List Fragment)) :
    spaced ((fragment :: run) :: runs) = ' ' :: fragment.spelling ++ spell run ++ spaced runs := by
  simp [spaced]

theorem exists_run_splitOnP (fragments : List Fragment) :
    ∃ run runs, fragments.splitOnP Fragment.isGap = run :: runs :=
  List.exists_cons_of_ne_nil (List.splitOnP_ne_nil Fragment.isGap fragments)

theorem intercalate_space (run : List Char) (runs : List (List Char)) :
    [' '].intercalate (run :: runs) = run ++ runs.flatMap (' ' :: ·) := by
  induction runs generalizing run with
  | nil => simp
  | cons next runs ih => simp [List.intercalate_cons_cons, ih]

/-- Behind a token, the tokens up to the next gap come first; behind a gap, every run of tokens has
its space. -/
theorem joinTokens_started (split : fragments.splitOnP Fragment.isGap = run :: runs) :
    joinTokens true false (fragments.flatMap Fragment.lexemes) = spell run ++ spaced runs ∧
      joinTokens true true (fragments.flatMap Fragment.lexemes) = spaced (run :: runs) := by
  induction fragments generalizing run runs with
  | nil =>
    rw [List.splitOnP_nil] at split
    cases split
    exact ⟨rfl, rfl⟩
  | cons fragment rest ih =>
    rw [List.splitOnP_cons_eq_if_modifyHead] at split
    obtain ⟨run', runs', split'⟩ := exists_run_splitOnP rest
    obtain ⟨behindToken, behindGap⟩ := ih split'
    rw [List.flatMap_cons]
    cases kind : fragment.isGap with
    | true =>
      rw [if_pos kind, split'] at split
      cases split
      rw [Fragment.joinTokens_gap kind, Fragment.joinTokens_gap kind, behindGap]
      exact ⟨rfl, rfl⟩
    | false =>
      rw [if_neg (by simp [kind]), split', List.modifyHead_cons] at split
      cases split
      rw [Fragment.joinTokens_token kind, Fragment.joinTokens_token kind, behindToken]
      constructor
      · simp
      · simp

/-- **The normalized text** of fragments is their runs of tokens with single spaces between them. -/
theorem joinTokens_lexemes (pending : Bool) (fragments : List Fragment) :
    joinTokens false pending (fragments.flatMap Fragment.lexemes) = normalized fragments := by
  induction fragments generalizing pending with
  | nil => rfl
  | cons fragment rest ih =>
    obtain ⟨run, runs, split⟩ := exists_run_splitOnP rest
    unfold normalized tokenRuns
    rw [List.flatMap_cons, List.splitOnP_cons_eq_if_modifyHead]
    cases kind : fragment.isGap with
    | true =>
      rw [Fragment.joinTokens_gap kind, ih]
      simp [normalized, tokenRuns]
    | false =>
      rw [Fragment.joinTokens_token kind, (joinTokens_started split).1, if_neg (by simp),
        if_neg (by simp), split, List.modifyHead_cons, List.filter_cons_of_pos rfl, List.map_cons,
        intercalate_space]
      simp [spaced, List.flatMap_map]

theorem identifiers_lexemes (fragments : List Fragment) :
    (fragments.flatMap Fragment.lexemes).filterMap Lexeme.identifier? =
      fragments.filterMap Fragment.identifier? := by
  induction fragments with
  | nil => rfl
  | cons fragment rest ih =>
    rw [List.flatMap_cons, List.filterMap_append, ih, fragment.identifiers]
    cases named : fragment.identifier? <;> simp [named]

theorem parameters_lexemes (fragments : List Fragment) :
    (fragments.flatMap Fragment.lexemes).count .parameter =
      fragments.countP Fragment.isParameter := by
  induction fragments with
  | nil => rfl
  | cons fragment rest ih =>
    rw [List.flatMap_cons, List.count_append, ih, fragment.parameters, List.countP_cons,
      Nat.add_comm]

theorem all_isClosed_lexemes (fragments : List Fragment) :
    (fragments.flatMap Fragment.lexemes).all Lexeme.isClosed = true := by
  rw [List.all_flatMap, List.all_eq_true]
  exact fun fragment _ => fragment.closed

/-! ## Reading the identifiers -/

namespace Construct

theorem foldl_addTo (constructs : List Construct) :
    constructs.foldl addTo [] = constructs.eraseDups := by
  induction constructs using List.reverseRecOn with
  | nil => rfl
  | append_singleton constructs construct ih =>
    rw [List.foldl_concat, ih, List.eraseDups_append]
    unfold addTo
    by_cases known : construct ∈ constructs
    · simp [known, List.removeAll]
    · simp [known, List.removeAll, List.eraseDups_cons]

theorem hasNextValueFor_iff (identifiers : List String) :
    hasNextValueFor identifiers = true ↔ ["NEXT", "VALUE", "FOR"] <:+: identifiers := by
  fun_induction hasNextValueFor identifiers with
  | case1 rest => exact iff_of_true rfl ⟨[], rest, rfl⟩
  | case2 identifier rest other ih =>
    rw [ih, List.infix_cons_iff]
    refine (or_iff_right ?_).symm
    rintro ⟨more, begins⟩
    obtain ⟨rfl, rfl⟩ := List.cons.inj begins
    exact other more rfl rfl
  | case3 => simp

theorem ofIdentifiers_eq_denoted (identifiers : List String) :
    ofIdentifiers identifiers = denoted identifiers := by
  unfold ofIdentifiers denoted
  simp only [foldl_addTo, hasNextValueFor_iff]
  unfold addTo
  by_cases next : ["NEXT", "VALUE", "FOR"] <:+: identifiers
  · by_cases named : sequenceNextValue ∈ (identifiers.filterMap ofIdentifier?).eraseDups
    · rw [if_pos next, if_pos named, if_neg (by simp [named])]
    · rw [if_pos next, if_neg named, if_pos ⟨next, named⟩]
  · rw [if_neg next, if_neg (by simp [next])]

end Construct

/-! ## Preparing what was put together -/

namespace Statement

/-- **Preparing a text of gaps and tokens** keeps the tokens as they are, a single space for the
gaps between two of them, one null parameter for each question mark and the constructs that the
identifiers denote.  The statement is complete, so only a construct keeps its results from being
reused. -/
theorem prepare_spell (munched : Munched fragments) :
    prepare (String.ofList (spell fragments)) =
        { text := String.ofList (normalized fragments)
          constructs := Construct.denoted (fragments.filterMap Fragment.identifier?)
          params := List.replicate (fragments.countP Fragment.isParameter) .null
          complete := true } ∧
      ((prepare (String.ofList (spell fragments))).isCacheable = true ↔
        Construct.denoted (fragments.filterMap Fragment.identifier?) = []) := by
  have prepared := prepare_eq_ofLexemes munched
  unfold ofLexemes at prepared
  rw [joinTokens_lexemes, identifiers_lexemes, parameters_lexemes, all_isClosed_lexemes,
    Construct.ofIdentifiers_eq_denoted] at prepared
  refine ⟨prepared, ?_⟩
  rw [prepared]
  simp [isCacheable]

/-- A quote in either comment, a comment mark and a quote in a literal, and a sequence's next value
across lines. -/
def commented : List Fragment :=
  [.gap (.blanks [' '] (by decide) (List.all_eq_true.1 rfl)),
    .gap (.blockComment " it's ".toList (by decide +kernel)),
    .token (.word 'N' ['e', 'x', 't'] (by decide) (List.all_eq_true.1 rfl)),
    .gap (.lineComment " don't".toList true (by decide +kernel)),
    .token (.word 'v' ['a', 'l', 'u', 'e'] (by decide) (List.all_eq_true.1 rfl)),
    .gap (.blanks ['\n', ' '] (by decide) (List.all_eq_true.1 rfl)),
    .token (.word 'F' ['O', 'R'] (by decide) (List.all_eq_true.1 rfl)),
    .token (.literal '"' "a\"b".toList (by decide)),
    .token (.mark '-' (by decide) (by decide) (by decide)),
    .token (.literal '\'' "it's -- NOW(?)".toList (by decide)),
    .token (.mark '?' (by decide) (by decide) (by decide)),
    .gap (.lineComment [' '] false (by decide))]

theorem prepare_spell_commented :
    Munched commented ∧
      String.ofList (spell commented) =
        " /* it's */Next-- don't\nvalue\n FOR\"a\"\"b\"-'it''s -- NOW(?)'?-- " ∧
      prepare (String.ofList (spell commented)) =
        { text := "Next value FOR\"a\"\"b\"-'it''s -- NOW(?)'?"
          constructs := [.sequenceNextValue]
          params := [.null]
          complete := true } ∧
      (prepare (String.ofList (spell commented))).isCacheable = false := by
  have munched : Munched commented := by decide +kernel
  obtain ⟨prepared, reusable⟩ := prepare_spell munched
  have constructs : Construct.denoted (commented.filterMap Fragment.identifier?) =
      [.sequenceNextValue] := by decide +kernel
  refine ⟨munched, by decide +kernel, ?_, ?_⟩
  · rw [prepared, constructs]
    decide +kernel
  · rw [Bool.eq_false_iff, ne_eq, reusable, constructs]
    simp

end Statement

end DurableStore
