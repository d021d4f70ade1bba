import DurableStore.Proofs.Block.Damage

/-!
What a policy is asked about a row of pieces, and what comes of its answers.

A policy is consulted about the blocks that cannot be verified (`mismatches`) one after another,
until it refuses one (`Policy.consult`).  Its answers decide nothing but whether the judgement of
the pieces goes on.

* `consult_cases` — a consultation accepts everything, or it stops at the first mismatch that the
  policy refuses;
* `judge_consults` — whatever the policy, what is made of the pieces is one and the same tally, if
  the consultation comes to its end, and the fault of the refusal otherwise;
* `judge_skip`, `judge_stateless`, `judge_eq_error` — what follows for policies that accept
  everything, that do not remember, or that have refused something.
-/

namespace DurableStore

/-! ## Consulting a policy -/

namespace Policy

/-- Asks a policy about one mismatch after another, until it refuses one.  The mismatches that it
was asked about before go in, and come out with the new ones behind them. -/
def consult (policy : Policy) : (asked met : List Mismatch) → Except Fault Unit × List Mismatch
  | asked, [] => (.ok (), asked)
  | asked, found :: later =>
    match policy.verdict asked found with
    | .error fault => (.error fault, asked ++ [found])
    | .ok () => policy.consult (asked ++ [found]) later

/-- The policy accepts each of these mismatches when it is asked about them one after another. -/
def Accepts (policy : Policy) (asked met : List Mismatch) : Prop :=
  ∀ before found after, met = before ++ found :: after →
    policy.verdict (asked ++ before) found = .ok ()

variable {policy : Policy} {asked met : List Mismatch} {found : Mismatch}

theorem accepts_nil (policy : Policy) (asked : List Mismatch) : policy.Accepts asked [] := by
  intro before found after same
  simp at same

theorem accepts_cons_iff :
    policy.Accepts asked (found :: met) ↔
      policy.verdict asked found = .ok () ∧ policy.Accepts (asked ++ [found]) met := by
  constructor
  · intro accepts
    refine ⟨?_, ?_⟩
    · simpa using accepts [] found met rfl
    · intro before other after same
      have accepted := accepts (found :: before) other after (by rw [same, List.cons_append])
      rwa [List.append_assoc]
  · rintro ⟨first, rest⟩ before other after same
    cases before with
    | nil =>
      obtain ⟨rfl, -⟩ := List.cons.inj same
      rwa [List.append_nil]
    | cons _ before =>
      obtain ⟨rfl, behind⟩ := List.cons.inj same
      have accepted := rest before other after behind
      rwa [List.append_assoc] at accepted

theorem accepts_skip (asked met : List Mismatch) : skip.Accepts asked met :=
  fun _ _ _ _ => rfl

theorem consult_of_accepts (accepts : policy.Accepts asked met) :
    policy.consult asked met = (.ok (), asked ++ met) := by
  induction met generalizing asked with
  | nil => rw [consult, List.append_nil]
  | cons found later ih =>
    obtain ⟨accepted, rest⟩ := accepts_cons_iff.1 accepts
    rw [consult, accepted]
    simp only [ih rest, List.append_assoc, List.singleton_append]

/-- **A consultation** accepts everything, or stops at the first mismatch that the policy
refuses. -/
theorem consult_cases (policy : Policy) (asked met : List Mismatch) :
    policy.Accepts asked met ∧ policy.consult asked met = (.ok (), asked ++ met) ∨
      ∃ front refused back fault, met = front ++ refused :: back ∧ policy.Accepts asked front ∧
        policy.verdict (asked ++ front) refused = .error fault ∧
        policy.consult asked met = (.error fault, asked ++ front ++ [refused]) := by
  induction met generalizing asked with
  | nil => exact .inl ⟨accepts_nil policy asked, consult_of_accepts (accepts_nil policy asked)⟩
  | cons found later ih =>
    cases verdict : policy.verdict asked found with
    | error fault =>
      refine .inr ⟨[], found, later, fault, rfl, accepts_nil policy asked, ?_, ?_⟩
      · rwa [List.append_nil]
      · rw [consult, verdict, List.append_nil]
    | ok accepted =>
      have next : policy.consult asked (found :: later) =
          policy.consult (asked ++ [found]) later := by
        rw [consult, verdict]
      rcases ih (asked ++ [found]) with
        ⟨accepts, -⟩ | ⟨front, refused, back, fault, rfl, accepts, refusal, stops⟩
      · have all := accepts_cons_iff.2 ⟨verdict, accepts⟩
        exact .inl ⟨all, consult_of_accepts all⟩
      · rw [List.append_assoc] at refusal
        refine .inr ⟨found :: front, refused, back, fault, rfl,
          accepts_cons_iff.2 ⟨verdict, accepts⟩, refusal, ?_⟩
        rw [next, stops]
        simp only [List.append_assoc, List.cons_append, List.nil_append]

theorem consult_stateless (stateless : policy.Stateless) (asked asked' met : List Mismatch) :
    (policy.consult asked met).1 = (policy.consult asked' met).1 := by
  induction met generalizing asked asked' with
  | nil => rfl
  | cons found later ih =>
    rw [consult, consult, stateless asked asked']
    split
    next => rfl
    next => exact ih _ _

end Policy

/-! ## The mismatches among pieces -/

/-- The blocks that cannot be verified among some pieces, as a policy is told of them. -/
def mismatches (path : Path) : List Piece → List Mismatch
  | [] => []
  | .torn _ :: _ => []
  | .garbage :: later => mismatches path later
  | .block offset header payload :: later =>
    if Checksum.crc32c payload = header.checksum then mismatches path later
    else .ofBlock path offset header payload :: mismatches path later

/-- **The pieces are judged alike under every policy** that accepts the mismatches among them. -/
theorem judge_consults (path : Path) (pieces : List Piece) :
    ∃ tally, ∀ (policy : Policy) (asked : List Mismatch),
      judge policy path pieces asked =
        ((policy.consult asked (mismatches path pieces)).1.map fun () => tally,
          (policy.consult asked (mismatches path pieces)).2) := by
  induction pieces with
  | nil => exact ⟨{}, fun policy asked => rfl⟩
  | cons piece later ih =>
    obtain ⟨tally, judged⟩ := ih
    cases piece with
    | torn offset => exact ⟨{ tornAt := some offset }, fun policy asked => rfl⟩
    | garbage =>
      refine ⟨tally.pass, fun policy asked => ?_⟩
      rw [judge, judged, mismatches]
      rcases policy.consult asked (mismatches path later) with ⟨fault | accepted, told⟩ <;> rfl
    | block offset header payload =>
      by_cases verified : Checksum.crc32c payload = header.checksum
      · refine ⟨tally.keep offset payload, fun policy asked => ?_⟩
        rw [judge_of_match policy verified, judged, mismatches, if_pos verified]
        rcases policy.consult asked (mismatches path later) with ⟨fault | accepted, told⟩ <;> rfl
      · refine ⟨tally.pass, fun policy asked => ?_⟩
        rw [judge_of_mismatch policy verified, mismatches, if_neg verified, Policy.consult]
        -- The policy is asked about this block here and there, and goes on alike.
        cases verdict : policy.verdict asked (.ofBlock path offset header payload) with
        | error fault => simp only [verdict, Except.map]
        | ok accepted =>
          simp only [verdict, judged]
          rcases policy.consult _ (mismatches path later) with ⟨fault | accepted, told⟩ <;> rfl

/-- A policy that accepts everything makes a tally of any pieces. -/
theorem judge_skip (path : Path) (pieces : List Piece) (asked : List Mismatch) :
    ∃ tally, judge .skip path pieces asked = (.ok tally, asked ++ mismatches path pieces) := by
  obtain ⟨tally, judged⟩ := judge_consults path pieces
  refine ⟨tally, ?_⟩
  rw [judged, Policy.consult_of_accepts (Policy.accepts_skip asked _)]
  rfl

/-- What a stateless policy makes of pieces does not depend on what it was asked before. -/
theorem judge_stateless {policy : Policy} (stateless : policy.Stateless) (path : Path)
    (pieces : List Piece) (asked asked' : List Mismatch) :
    (judge policy path pieces asked).1 = (judge policy path pieces asked').1 := by
  obtain ⟨tally, judged⟩ := judge_consults path pieces
  rw [judged, judged, Policy.consult_stateless stateless asked asked']

/-- If the pieces are not judged to the end, the policy has refused one of them. -/
theorem judge_eq_error {policy : Policy} {path : Path} {pieces : List Piece}
    {asked asked' : List Mismatch} {fault : Fault}
    (judged : judge policy path pieces asked = (.error fault, asked')) :
    ∃ before mismatch, policy.verdict before mismatch = .error fault := by
  obtain ⟨tally, consults⟩ := judge_consults path pieces
  rw [consults] at judged
  rcases policy.consult_cases asked (mismatches path pieces) with
    ⟨-, goes⟩ | ⟨front, refused, back, fault', -, -, refusal, stops⟩
  · rw [goes] at judged
    cases judged
  · rw [stops] at judged
    cases judged
    exact ⟨_, refused, refusal⟩

end DurableStore
