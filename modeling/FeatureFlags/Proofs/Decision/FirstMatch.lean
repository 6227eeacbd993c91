import FeatureFlags.Proofs.Decision.Merging
import FeatureFlags.Proofs.Prerequisites.Gating
import Mathlib.Control.Monad.Basic

/-!
# The first match decides

A flag that is on and has its prerequisites satisfied is decided by the first of its targets that
lists the context, or else by the first of its rules that does not pass, or else by the fallthrough.
A rule passes if one of its clauses does not hold.  One that does not pass either matches or fails;
both end the search.

Whatever comes behind the part that decides is not looked at.  It may be replaced by anything, such
as rules that would fail and outcomes that select nothing, and neither the result nor what is left
behind with it will change.

Rules are looked at in a scope, and each leaves it to the next as it has changed it.  So a rule does
not match or fail by itself, but behind the rules before it.

## What is here

* `Environment.matchesRule`, `Environment.PassesRules`: one rule, and rules that all pass.
* `Flag.serve`, `Flag.served`: what an outcome of a flag gives.
* `Environment.run_of_target`, `run_of_stopsAt`, `run_of_fallthrough`: runs by what decides them.
* `evaluate_first_match`: the theorem.
-/

set_option autoImplicit false

namespace FeatureFlags

/-! ## Outcomes -/

namespace Flag

variable (f : Flag) (o : Outcome) (c : Context) (reason : Bool → Reason)

/-- Serves what an outcome selects, for a reason that may depend on the experiment. -/
def serve : Eval (Detail FlagValue) := do
  let selection ← Eval.ofExcept (f.select o c)
  return f.variation selection.variation (reason selection.inExperiment)

/-- The detail that comes of an outcome.  An outcome that selects nothing makes the flag
malformed. -/
def served : Detail FlagValue :=
  match f.select o c with
  | .ok selection => f.variation selection.variation (reason selection.inExperiment)
  | .error _ => .err .malformedFlag

variable {f o c reason}

theorem serve_apply (s : Scope) :
    f.serve o c reason s = match f.select o c with
      | .ok selection =>
        (.ok (f.variation selection.variation (reason selection.inExperiment)), s)
      | .error e => (.error e, s) := by
  rw [serve]
  cases f.select o c with
  | ok selection => rfl
  | error e => rfl

/-- An outcome that selects nothing makes the flag malformed. -/
theorem kind_of_select_error {e : EvalError} (h : f.select o c = .error e) :
    e.kind = .malformedFlag := by
  have hdata := Outcome.select_error h
  cases e <;> first | rfl | exact hdata.elim

theorem detail_serve (s : Scope) :
    (Evaluation.ofRun f (f.serve o c reason s)).detail =
      { f.served o c reason with status := s.status } := by
  rw [serve_apply, served]
  cases h : f.select o c with
  | ok selection => rfl
  | error e => simp only [Evaluation.ofRun, kind_of_select_error h]

end Flag

/-! ## Rules -/

namespace Environment

variable (env : Environment)

/-- Whether all clauses of a rule hold. -/
def matchesRule (r : FlagRule) : Eval Bool := allHold env (env.inSegment env.segmentDepth) r.clauses

/-- None of the rules matches or fails, one after the other from one scope to another. -/
inductive PassesRules : List FlagRule → Scope → Scope → Prop where
  | nil (s : Scope) : PassesRules [] s s
  | cons {r : FlagRule} {rest : List FlagRule} {s t u : Scope}
      (h : env.matchesRule r s = (.ok false, t)) (hrest : PassesRules rest t u) :
      PassesRules (r :: rest) s u

/-- The rule matches or fails, from one scope to another. -/
def StopsAt (r : FlagRule) (s t : Scope) : Prop :=
  env.matchesRule r s = (.ok true, t) ∨ ∃ e, env.matchesRule r s = (.error e, t)

variable {env} {f : Flag} {before after : List FlagRule} {r : FlagRule} {s t u : Scope}

/-- Either all rules pass, or all before one of them that does not. -/
theorem passesRules_or_stopsAt (rules : List FlagRule) (s : Scope) :
    (∃ u, env.PassesRules rules s u) ∨
      ∃ before r after t u, rules = before ++ r :: after ∧ env.PassesRules before s t ∧
        env.StopsAt r t u := by
  induction rules generalizing s with
  | nil => exact Or.inl ⟨s, .nil s⟩
  | cons r rest ih =>
    rcases h : env.matchesRule r s with ⟨result, t⟩
    cases result with
    | error e => exact Or.inr ⟨[], r, rest, s, t, rfl, .nil s, Or.inr ⟨e, h⟩⟩
    | ok holds =>
      cases holds with
      | true => exact Or.inr ⟨[], r, rest, s, t, rfl, .nil s, Or.inl h⟩
      | false =>
        rcases ih t with ⟨u, hpasses⟩ | ⟨before, r', after, t', u, rfl, hpasses, hstops⟩
        · exact Or.inl ⟨u, .cons h hpasses⟩
        · exact Or.inr ⟨r :: before, r', after, t', u, rfl, .cons h hpasses, hstops⟩

theorem decideByRules_cons (index : Nat) :
    f.decideByRules env (env.inSegment env.segmentDepth) index (r :: after) =
      env.matchesRule r >>= fun holds =>
        if holds then f.serve r.outcome env.context (.ruleMatch index r.id)
        else f.decideByRules env (env.inSegment env.segmentDepth) (index + 1) after := rfl

/-- Rules that pass lead on to those behind them. -/
theorem decideByRules_of_passesRules (h : env.PassesRules before s t) (index : Nat) :
    f.decideByRules env (env.inSegment env.segmentDepth) index (before ++ after) s =
      f.decideByRules env (env.inSegment env.segmentDepth) (index + before.length) after t := by
  induction h generalizing index with
  | nil s => rfl
  | @cons r rest s t u hr _ ih =>
    rw [List.cons_append, decideByRules_cons, Eval.bind_of_ok hr, List.length_cons,
      Nat.add_comm rest.length, ← Nat.add_assoc]
    exact ih (index + 1)

/-! ## Runs -/

section

variable (hon : f.on = true) (hsatisfied : env.checkPrerequisites f .empty = (.ok none, s))

include hon hsatisfied

/-- With the prerequisites satisfied, targets, rules and fallthrough decide. -/
theorem run_of_satisfied : env.run f = f.decide env (env.inSegment env.segmentDepth) s := by
  rw [env.run_eq hon, Eval.bind_of_ok hsatisfied]

/-- A target decides by itself. -/
theorem run_of_target {index : Nat} (htarget : f.targetVariation? env.context = some index) :
    env.run f = (.ok (f.variation index .targetMatch), s) := by
  rw [run_of_satisfied hon hsatisfied, Flag.decide, htarget]
  rfl

/-- Behind a target that decides, nothing matters. -/
theorem run_behind_target {index : Nat} (htarget : f.targetVariation? env.context = some index)
    (rules : List FlagRule) (fallthrough : Outcome) :
    env.run { f with rules, fallthrough } = env.run f :=
  (run_of_target (f := { f with rules, fallthrough }) hon hsatisfied htarget).trans
    (run_of_target hon hsatisfied htarget).symm

section

variable (htarget : f.targetVariation? env.context = none)

include htarget

/-- The first rule that does not pass decides. -/
theorem run_of_stopsAt (hrules : f.rules = before ++ r :: after)
    (hpasses : env.PassesRules before s t) (hstops : env.StopsAt r t u) :
    env.run f = match (env.matchesRule r t).1 with
      | .ok _ => f.serve r.outcome env.context (.ruleMatch before.length r.id) u
      | .error e => (.error e, u) := by
  rw [run_of_satisfied hon hsatisfied, Flag.decide, htarget, hrules]
  simp only [decideByRules_of_passesRules hpasses, Nat.zero_add, decideByRules_cons]
  rcases hstops with hmatches | ⟨e, hfails⟩
  · rw [hmatches, Eval.bind_of_ok hmatches]
    rfl
  · rw [hfails, Eval.bind_of_error hfails]

/-- Behind a rule that does not pass, nothing matters. -/
theorem run_behind_rule (hrules : f.rules = before ++ r :: after)
    (hpasses : env.PassesRules before s t) (hstops : env.StopsAt r t u) (others : List FlagRule)
    (fallthrough : Outcome) :
    env.run { f with rules := before ++ r :: others, fallthrough } = env.run f :=
  (run_of_stopsAt (f := { f with rules := before ++ r :: others, fallthrough }) hon hsatisfied
    htarget rfl hpasses hstops).trans
    (run_of_stopsAt hon hsatisfied htarget hrules hpasses hstops).symm

/-- The fallthrough decides when all rules pass. -/
theorem run_of_fallthrough (hpasses : env.PassesRules f.rules s u) :
    env.run f = f.serve f.fallthrough env.context .fallthrough u := by
  rw [run_of_satisfied hon hsatisfied, Flag.decide, htarget, ← List.append_nil f.rules]
  exact decideByRules_of_passesRules hpasses 0

end

/-- The fallthrough makes a difference just if it decides. -/
theorem fallthrough_matters_iff :
    (∃ o, env.run { f with fallthrough := o } ≠ env.run f) ↔
      f.targetVariation? env.context = none ∧ ∃ u, env.PassesRules f.rules s u := by
  constructor
  · rintro ⟨o, hdiffers⟩
    cases htarget : f.targetVariation? env.context with
    | some index => exact absurd (run_behind_target hon hsatisfied htarget f.rules o) hdiffers
    | none =>
      rcases passesRules_or_stopsAt f.rules s with
        hpasses | ⟨before, r, after, t, u, hrules, hpasses, hstops⟩
      · exact ⟨rfl, hpasses⟩
      · have hsame := run_behind_rule hon hsatisfied htarget hrules hpasses hstops after o
        rw [← hrules] at hsame
        exact absurd hsame hdiffers
  · rintro ⟨htarget, u, hpasses⟩
    have hrun : ∀ o, env.run { f with fallthrough := o } = f.serve o env.context .fallthrough u :=
      fun o => run_of_fallthrough (f := { f with fallthrough := o }) hon hsatisfied htarget hpasses
    -- one of these outcomes gives a detail, and the other fails
    cases hresult : (env.run f).1 with
    | ok detail =>
      refine ⟨.malformed .null, fun hsame => ?_⟩
      rw [← hsame, hrun] at hresult
      cases hresult
    | error e =>
      refine ⟨.fixed 0, fun hsame => ?_⟩
      rw [← hsame, hrun] at hresult
      cases hresult

end

end Environment

/-! ## Whole evaluations -/

/-- A result is that of the run, for any flag with the key. -/
theorem evaluate_congr {env : Environment} {f g : Flag} (hkey : f.key = g.key)
    (hrun : env.run f = env.run g) : evaluate env f = evaluate env g := by
  rw [evaluate, evaluate, hrun]
  rcases env.run g with ⟨r, s⟩
  cases r with
  | ok detail => rfl
  | error e => rw [Evaluation.ofRun, Evaluation.ofRun, hkey]

open Environment in
/-- **The first match decides, and nothing behind it matters.**  Let a flag be on and its
prerequisites satisfied.

A target that lists the context serves its variation, and rules and fallthrough may be any.
Otherwise, the first rule that matches serves what its outcome selects, and the first rule that
fails makes the evaluation fail; the rules behind it and the fallthrough may be any.  The fallthrough
makes a difference just if no target lists the context and all rules pass, and it serves what it
selects then. -/
theorem evaluate_first_match (env : Environment) (f : Flag) (hon : f.on = true) (s : Scope)
    (hsatisfied : env.checkPrerequisites f .empty = (.ok none, s)) :
    let target? := f.effectiveTargets.find? fun t => t.lists env.context
    (∀ target, target? = some target →
      (evaluate env f).detail =
        { f.variation target.variation .targetMatch with status := s.status } ∧
      ∀ rules fallthrough, evaluate env { f with rules, fallthrough } = evaluate env f) ∧
    (target? = none → ∀ before r after t u, f.rules = before ++ r :: after →
      env.PassesRules before s t → env.StopsAt r t u →
      (env.matchesRule r t = (.ok true, u) → (evaluate env f).detail =
        { f.served r.outcome env.context (.ruleMatch before.length r.id) with
          status := u.status }) ∧
      (∀ e, env.matchesRule r t = (.error e, u) → env.run f = (.error e, u)) ∧
      ∀ others fallthrough,
        evaluate env { f with rules := before ++ r :: others, fallthrough } = evaluate env f) ∧
    ((∃ o, env.run { f with fallthrough := o } ≠ env.run f) ↔
      target? = none ∧ ∃ u, env.PassesRules f.rules s u) ∧
    (target? = none → ∀ u, env.PassesRules f.rules s u → (evaluate env f).detail =
      { f.served f.fallthrough env.context .fallthrough with status := u.status }) := by
  intro target?
  have hnone : target? = none ↔ f.targetVariation? env.context = none := by
    rw [Flag.targetVariation?_eq, Option.map_eq_none_iff]
  refine ⟨fun target htarget => ?_, fun htarget before r after t u hrules hpasses hstops => ?_,
    ?_, fun htarget u hpasses => ?_⟩
  · have hindex : f.targetVariation? env.context = some target.variation := by
      rw [Flag.targetVariation?_eq]
      exact Option.map_eq_some_iff.2 ⟨target, htarget, rfl⟩
    refine ⟨?_, fun rules fallthrough =>
      evaluate_congr rfl (run_behind_target hon hsatisfied hindex rules fallthrough)⟩
    rw [evaluate, run_of_target hon hsatisfied hindex]
    rfl
  · have hrun := run_of_stopsAt hon hsatisfied (hnone.1 htarget) hrules hpasses hstops
    refine ⟨fun hmatches => ?_, fun e hfails => ?_, fun others fallthrough => evaluate_congr rfl
      (run_behind_rule hon hsatisfied (hnone.1 htarget) hrules hpasses hstops others fallthrough)⟩
    · rw [hmatches] at hrun
      rw [evaluate, hrun]
      exact Flag.detail_serve u
    · rw [hrun, hfails]
  · rw [hnone]
    exact fallthrough_matters_iff hon hsatisfied
  · rw [evaluate, run_of_fallthrough hon hsatisfied (hnone.1 htarget) hpasses]
    exact Flag.detail_serve u

/-- A flag with a prerequisite that is satisfied and rules of all sorts: the first is for a segment
that is missing, the second for one that has the user, and the third has no outcome. -/
def ruled : Flag :=
  { Flag.requiring "menu" ["core"] with
    rules := [⟨"gone", [.naming ["gone"]], .fixed 0, false⟩,
      ⟨"staff", [.naming ["staff"]], .fixed 0, false⟩, ⟨"broken", [], .malformed .null, false⟩]
    fallthrough := .malformed .null }

/-- The environment of that flag. -/
def ruledBy : Environment where
  store := .ofDataset (.ofItems [.requiring "core" []] [.naming "staff" ["u"] []])
  provider := none
  context := .ofUserKey "u"

/-- The second rule decides, so what is wrong behind it does not matter. -/
theorem evaluate_first_match_ruled :
    ruled.on = true ∧ (ruledBy.checkPrerequisites ruled .empty).1 = .ok none ∧
      (evaluate ruledBy ruled).detail.reason = .ruleMatch 1 "staff" false ∧
      (evaluate ruledBy ruled).detail.index = some 0 ∧
      ∀ others fallthrough, evaluate ruledBy
        { ruled with rules := ruled.rules.take 2 ++ others, fallthrough } =
          evaluate ruledBy ruled := by
  have hsatisfied : (ruledBy.checkPrerequisites ruled .empty).1 = .ok none := by decide +kernel
  let s := (ruledBy.checkPrerequisites ruled .empty).2
  let gone : FlagRule := ⟨"gone", [.naming ["gone"]], .fixed 0, false⟩
  let staff : FlagRule := ⟨"staff", [.naming ["staff"]], .fixed 0, false⟩
  have hgone : (ruledBy.matchesRule gone s).1 = .ok false := by decide +kernel
  let t := (ruledBy.matchesRule gone s).2
  have hstaff : (ruledBy.matchesRule staff t).1 = .ok true := by decide +kernel
  have hpasses : ruledBy.PassesRules [gone] s t := .cons (Prod.ext hgone rfl) (.nil t)
  have hmatches : ruledBy.matchesRule staff t = (.ok true, _) := Prod.ext hstaff rfl
  obtain ⟨hserved, -, hbehind⟩ :=
    (evaluate_first_match ruledBy ruled rfl s (Prod.ext hsatisfied rfl)).2.1 rfl [gone] staff _ t _
      rfl hpasses (Or.inl hmatches)
  refine ⟨rfl, hsatisfied, ?_, ?_, hbehind⟩
  · rw [hserved hmatches]
    rfl
  · rw [hserved hmatches]
    rfl

end FeatureFlags
