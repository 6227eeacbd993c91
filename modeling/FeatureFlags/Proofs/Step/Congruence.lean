import FeatureFlags.Evaluation.Basic

/-!
# Relations that evaluations respect

Most of what is proved about evaluations compares two of them: one with chains and one without, one
with more levels to go than the other, one inside of another evaluation and one on its own.  The
two differ in a few steps, and all the rest is the same program put around those steps.

This file goes through that program once.  A `Compositional` relation between steps holds of the
plain ones and is kept by doing one step after another; whatever is built from related parts is then
related, from a single clause up to the evaluation of a flag.  A `Congruence` holds of lookups and of
consultations of big segments besides.  What is particular to a comparison — how a segment or a
prerequisite is entered, and the induction on the levels below it — is left to the file that makes
it.

A property of one step is a relation that ignores its second step, so the same lemmas also carry
invariants.

## What is here

* `Eval.bind_eq_ok`, `bind_eq_error`: what one step and then another end with.
* `Environment.bind_flag?`, `bind_segment?`: a lookup and what follows it.
* `EvalError.IsOfData`: the errors that come from the data of a single clause, rule or outcome.
* `Eval.Compositional`, with one lemma for each function that is put together from other steps.
* `Eval.Congruence`, with one for each function that looks something up or consults big segments.
-/

set_option autoImplicit false

namespace FeatureFlags

/-! ## Steps one after another

A step is read off a run from its end: what the last part gives, the parts before it must have led
to. -/

namespace Eval

variable {α β : Type}

theorem bind_of_ok {x : Eval α} {f : α → Eval β} {a : α} {s t : Scope} (h : x s = (.ok a, t)) :
    (x >>= f) s = f a t := by
  simp only [Bind.bind, Eval.bind, h]

theorem bind_of_error {x : Eval α} {f : α → Eval β} {e : EvalError} {s t : Scope}
    (h : x s = (.error e, t)) : (x >>= f) s = (.error e, t) := by
  simp only [Bind.bind, Eval.bind, h]

theorem bind_eq_ok {x : Eval α} {f : α → Eval β} {b : β} {s u : Scope} :
    (x >>= f) s = (.ok b, u) ↔ ∃ a t, x s = (.ok a, t) ∧ f a t = (.ok b, u) := by
  simp only [Bind.bind, Eval.bind]
  rcases x s with ⟨r, t⟩
  cases r with
  | error e => simp
  | ok a =>
    constructor
    · intro h
      exact ⟨a, t, rfl, h⟩
    · rintro ⟨a', t', ⟨⟩, h⟩
      exact h

theorem bind_eq_error {x : Eval α} {f : α → Eval β} {e : EvalError} {s u : Scope} :
    (x >>= f) s = (.error e, u) ↔
      x s = (.error e, u) ∨ ∃ a t, x s = (.ok a, t) ∧ f a t = (.error e, u) := by
  simp only [Bind.bind, Eval.bind]
  rcases x s with ⟨r, t⟩
  cases r with
  | error e' => simp
  | ok a =>
    constructor
    · exact fun h => Or.inr ⟨a, t, rfl, h⟩
    · rintro (h | ⟨a', t', ⟨⟩, h⟩)
      · cases h
      · exact h

theorem around_eq_ok {before after : Scope → Scope} {x : Eval α} {a : α} {s u : Scope}
    (h : around before after x s = (.ok a, u)) : ∃ t, x (before s) = (.ok a, t) ∧ u = after t := by
  simp only [around, Prod.mk.injEq] at h
  exact ⟨_, Prod.ext h.1 rfl, h.2.symm⟩

theorem around_eq_error {before after : Scope → Scope} {x : Eval α} {e : EvalError} {s u : Scope}
    (h : around before after x s = (.error e, u)) :
    ∃ t, x (before s) = (.error e, t) ∧ u = after t := by
  simp only [around, Prod.mk.injEq] at h
  exact ⟨_, Prod.ext h.1 rfl, h.2.symm⟩

end Eval

/-! ## Lookups

The data set does not hide deleted items, and a store may or may not do so.  The evaluation drops
them in any case, so a lookup that does not fail always gives what the data set holds under a key
and is not deleted. -/

theorem Store.filter_flag? (s : Store) (key : String) :
    (if s.hidesDeleted then s.data.flag? key else s.data.flags.find? key).filter (!·.deleted) =
      s.data.flag? key := by
  rw [Dataset.flag?]
  cases s.hidesDeleted with
  | false => rfl
  | true => simp [Option.filter_filter]

theorem Store.filter_segment? (s : Store) (key : String) :
    (if s.hidesDeleted then s.data.segment? key else s.data.segments.find? key).filter
      (!·.deleted) = s.data.segment? key := by
  rw [Dataset.segment?]
  cases s.hidesDeleted with
  | false => rfl
  | true => simp [Option.filter_filter]

theorem Dataset.find?_of_flag? {d : Dataset} {key : String} {f : Flag}
    (h : d.flag? key = some f) : d.flags.find? key = some f :=
  (Option.filter_eq_some_iff.1 h).1

theorem Dataset.find?_of_segment? {d : Dataset} {key : String} {s : Segment}
    (h : d.segment? key = some s) : d.segments.find? key = some s :=
  (Option.filter_eq_some_iff.1 h).1

namespace Environment

variable {α : Type} (env : Environment)

theorem flag?_apply (key : String) (s : Scope) :
    env.flag? key s = (match env.store.flagFailures key with
      | some e => .error (.store e)
      | none => .ok (env.store.data.flag? key),
      { s with events := s.events ++ [.flagLookup key] }) := by
  rw [← Store.filter_flag?]
  simp only [flag?, Store.flag?, bind, Eval.bind, Eval.note, Eval.update]
  cases env.store.flagFailures key with
  | some e => rfl
  | none => rfl

theorem segment?_apply (key : String) (s : Scope) :
    env.segment? key s = (match env.store.segmentFailures key with
      | some e => .error (.store e)
      | none => .ok (env.store.data.segment? key),
      { s with events := s.events ++ [.segmentLookup key] }) := by
  rw [← Store.filter_segment?]
  simp only [segment?, Store.segment?, bind, Eval.bind, Eval.note, Eval.update]
  cases env.store.segmentFailures key with
  | some e => rfl
  | none => rfl

theorem bind_flag? (key : String) (k : Option Flag → Eval α) :
    (env.flag? key >>= k) = (Eval.note (.flagLookup key) >>= fun _ =>
      match env.store.flagFailures key with
      | some e => Eval.fail (.store e)
      | none => k (env.store.data.flag? key)) := by
  funext scope
  simp only [bind, Eval.bind, flag?_apply, Eval.note, Eval.update]
  cases env.store.flagFailures key with
  | some e => rfl
  | none => rfl

theorem bind_segment? (key : String) (k : Option Segment → Eval α) :
    (env.segment? key >>= k) = (Eval.note (.segmentLookup key) >>= fun _ =>
      match env.store.segmentFailures key with
      | some e => Eval.fail (.store e)
      | none => k (env.store.data.segment? key)) := by
  funext scope
  simp only [bind, Eval.bind, segment?_apply, Eval.note, Eval.update]
  cases env.store.segmentFailures key with
  | some e => rfl
  | none => rfl

end Environment

/-! ## Errors that come from data

A clause can fail because its reference is invalid, and a rollout for a few reasons of its own.
None of these depends on what an evaluation keeps track of. -/

/-- The errors that a single clause, weight or outcome can end in. -/
def EvalError.IsOfData : EvalError → Prop
  | .invalidReference _ _ | .missingContextKind _ | .missingVariation => True
  | _ => False

theorem Reference.check_error {r : Reference} {e : EvalError} (h : r.check = .error e) :
    e.IsOfData := by
  rw [check] at h
  split at h
  · cases h
  · cases h
    trivial

theorem Clause.judge_error {clause : Clause} {c : Context} {e : EvalError}
    (h : clause.judge c = .error e) : e.IsOfData := by
  rw [judge] at h
  cases hr : clause.reference.check with
  | error e' =>
    rw [hr] at h
    cases h
    exact Reference.check_error hr
  | ok u =>
    rw [hr] at h
    cases h

theorem Context.bucket_error {c : Context} {kind : Kind} {r : Option Reference} {salt : String}
    {isExperiment : Bool} {e : EvalError} (h : c.bucket kind r salt isExperiment = .error e) :
    e.IsOfData := by
  rw [bucket] at h
  split at h
  · cases h
  · rw [Entity.bucket.eq_def] at h
    split at h
    · cases h
    · cases h
    · next r =>
      cases hr : r.check with
      | error e' =>
        rw [hr] at h
        cases h
        exact Reference.check_error hr
      | ok u =>
        rw [hr] at h
        cases h

theorem SegmentRule.includes_error {r : SegmentRule} {key salt : String} {c : Context}
    {e : EvalError} (h : r.includes key salt c = .error e) : e.IsOfData := by
  rw [includes] at h
  split at h
  · cases h
  · split at h
    · cases hb : c.bucket r.rolloutContextKind r.bucketBy (key ++ "." ++ salt) false with
      | error e' =>
        rw [hb] at h
        cases h
        exact Context.bucket_error hb
      | ok b =>
        rw [hb] at h
        cases h
    · cases h

theorem Outcome.select_error {o : Outcome} {key salt : String} {c : Context} {e : EvalError}
    (h : o.select key salt c = .error e) : e.IsOfData := by
  cases o with
  | fixed n => cases h
  | malformed data =>
    cases h
    trivial
  | rollout r =>
    rw [select] at h
    split at h
    · cases h
      trivial
    · split at h
      · next hb =>
        cases h
        exact Context.bucket_error hb
      · cases h
        trivial
      · split at h
        · cases h
          trivial
        · cases h

/-! ## The segments that are named

These are all the segments that a clause, a segment or a flag can ask about. -/

/-- The keys of the segments that a clause asks about. -/
def Clause.namedSegments (clause : Clause) : List String :=
  if clause.op = .segmentMatch then clause.segmentKeys else []

/-- The keys of the segments that the rules of a segment ask about. -/
def Segment.namedSegments (s : Segment) : List String :=
  s.rules.flatMap fun r => r.clauses.flatMap Clause.namedSegments

/-- The keys of the segments that the rules of a flag ask about. -/
def Flag.namedSegments (f : Flag) : List String :=
  f.rules.flatMap fun r => r.clauses.flatMap Clause.namedSegments

/-! ## Segments after their verdict -/

/-- Whether the context is in a segment, with what is known of it before the rules are looked at. -/
def Segment.containsGiven (env : Environment) (inSegment : String → Eval Bool) (s : Segment) :
    Option Bool → Eval Bool
  | some answer => return answer
  | none => Eval.any (fun r => r.evaluate env inSegment s.key s.salt) s.rules

/-- The same, after a step that finds out what is known. -/
def Segment.containsAfter (env : Environment) (inSegment : String → Eval Bool) (s : Segment)
    (verdict : Eval (Option Bool)) : Eval Bool :=
  verdict >>= s.containsGiven env inSegment

/-! ## Compositional relations -/

namespace Eval

/-- A relation between steps of two evaluations for one context.  It relates the plain steps to
themselves, among them the failures with an error of `E`, and is kept by doing one step after
another. -/
structure Compositional (env₁ env₂ : Environment) (E : EvalError → Prop)
    (R : ∀ ⦃α : Type⦄, Eval α → Eval α → Prop) : Prop where
  /-- Both are evaluations for one context. -/
  context : env₁.context = env₂.context
  /-- Steps that only give a value are related. -/
  pure : ∀ {α : Type} (a : α), R (Pure.pure a) (Pure.pure a)
  /-- Related steps, one after the other, are related. -/
  bind : ∀ {α β : Type} {x y : Eval α} {f g : α → Eval β}, R x y → (∀ a, R (f a) (g a)) →
    R (x >>= f) (y >>= g)
  /-- Failures are related. -/
  fail : ∀ {α : Type} {e : EvalError}, E e → R (Eval.fail e : Eval α) (Eval.fail e)
  /-- Warnings are related. -/
  warn : ∀ ws, R (Eval.warn ws) (Eval.warn ws)

namespace Compositional

variable {env₁ env₂ : Environment} {E : EvalError → Prop}
  {R : ∀ ⦃α : Type⦄, Eval α → Eval α → Prop} (h : Compositional env₁ env₂ E R)
  {in₁ in₂ : String → Eval Bool}

include h

/-- Fewer failures are related. -/
theorem weaken {E' : EvalError → Prop} (hE : ∀ e, E' e → E e) : Compositional env₁ env₂ E' R where
  context := h.context
  pure := h.pure
  bind := h.bind
  fail he := h.fail (hE _ he)
  warn := h.warn

/-! ### Lists -/

theorem any {β : Type} {p q : β → Eval Bool} {l : List β} (hp : ∀ x ∈ l, R (p x) (q x)) :
    R (Eval.any p l) (Eval.any q l) := by
  induction l with
  | nil => exact h.pure false
  | cons x l ih =>
    refine h.bind (hp x List.mem_cons_self) fun b => ?_
    cases b with
    | true => exact h.pure true
    | false => exact ih fun y hy => hp y (List.mem_cons_of_mem x hy)

theorem all {β : Type} {p q : β → Eval Bool} {l : List β} (hp : ∀ x ∈ l, R (p x) (q x)) :
    R (Eval.all p l) (Eval.all q l) := by
  induction l with
  | nil => exact h.pure true
  | cons x l ih =>
    refine h.bind (hp x List.mem_cons_self) fun b => ?_
    cases b with
    | true => exact ih fun y hy => hp y (List.mem_cons_of_mem x hy)
    | false => exact h.pure false

/-! ### Clauses and segments -/

theorem ofExcept {α : Type} {x : Except EvalError α} (hx : ∀ e, x = .error e → E e) :
    R (Eval.ofExcept x) (Eval.ofExcept x) := by
  cases x with
  | ok a => exact h.pure a
  | error e => exact h.fail (hx e rfl)

variable (hE : ∀ e : EvalError, e.IsOfData → E e)

include hE

theorem clause {clause : Clause} (hin : ∀ key ∈ clause.namedSegments, R (in₁ key) (in₂ key)) :
    R (clause.evaluate env₁ in₁) (clause.evaluate env₂ in₂) := by
  simp only [Clause.evaluate, Clause.namedSegments] at hin ⊢
  split
  · next hop =>
    rw [if_pos hop] at hin
    exact h.bind (h.any hin) fun b => h.pure _
  · rw [← h.context]
    refine h.bind (h.ofExcept fun e he => hE e (Clause.judge_error he)) fun r => ?_
    exact h.bind (h.warn r.2) fun _ => h.pure r.1

theorem allHold {clauses : List Clause}
    (hin : ∀ key ∈ clauses.flatMap Clause.namedSegments, R (in₁ key) (in₂ key)) :
    R (FeatureFlags.allHold env₁ in₁ clauses) (FeatureFlags.allHold env₂ in₂ clauses) :=
  h.all fun clause hc => h.clause hE fun key hk => hin key (List.mem_flatMap.2 ⟨clause, hc, hk⟩)

theorem segmentRule {r : SegmentRule} {key salt : String}
    (hin : ∀ key ∈ r.clauses.flatMap Clause.namedSegments, R (in₁ key) (in₂ key)) :
    R (r.evaluate env₁ in₁ key salt) (r.evaluate env₂ in₂ key salt) := by
  refine h.bind (h.allHold hE hin) fun b => ?_
  cases b with
  | true =>
    rw [← h.context]
    exact h.ofExcept fun e he => hE e (SegmentRule.includes_error he)
  | false => exact h.pure false

theorem containsGiven {s : Segment} (hin : ∀ key ∈ s.namedSegments, R (in₁ key) (in₂ key))
    (known : Option Bool) :
    R (s.containsGiven env₁ in₁ known) (s.containsGiven env₂ in₂ known) := by
  cases known with
  | some answer => exact h.pure answer
  | none =>
    exact h.any fun r hr => h.segmentRule hE fun key hk => hin key (List.mem_flatMap.2 ⟨r, hr, hk⟩)

/-- Deciding a segment respects a relation of what is known of the context before the rules are
looked at, and of the decisions for the segments that the rules name. -/
theorem containsAfter {s : Segment} {verdict₁ verdict₂ : Eval (Option Bool)}
    (hverdict : R verdict₁ verdict₂) (hin : ∀ key ∈ s.namedSegments, R (in₁ key) (in₂ key)) :
    R (s.containsAfter env₁ in₁ verdict₁) (s.containsAfter env₂ in₂ verdict₂) :=
  h.bind hverdict (h.containsGiven hE hin)

/-! ### Flags -/

theorem outcome (f : Flag) (o : Outcome) :
    R (Eval.ofExcept (f.select o env₁.context)) (Eval.ofExcept (f.select o env₂.context)) := by
  rw [← h.context]
  exact h.ofExcept fun e he => hE e (Outcome.select_error he)

theorem rules {f : Flag} {rules : List FlagRule} {index : Nat}
    (hin : ∀ r ∈ rules, ∀ key ∈ r.clauses.flatMap Clause.namedSegments, R (in₁ key) (in₂ key)) :
    R (f.decideByRules env₁ in₁ index rules) (f.decideByRules env₂ in₂ index rules) := by
  induction rules generalizing index with
  | nil => exact h.bind (h.outcome hE f f.fallthrough) fun selection => h.pure _
  | cons r rules ih =>
    refine h.bind (h.allHold hE (hin r List.mem_cons_self)) fun b => ?_
    cases b with
    | true => exact h.bind (h.outcome hE f r.outcome) fun selection => h.pure _
    | false => exact ih fun r' hr' => hin r' (List.mem_cons_of_mem r hr')

/-- Targets, rules and fallthrough respect a relation of the decisions for the segments that the
rules name. -/
theorem decide {f : Flag} (hin : ∀ key ∈ f.namedSegments, R (in₁ key) (in₂ key)) :
    R (f.decide env₁ in₁) (f.decide env₂ in₂) := by
  rw [Flag.decide, Flag.decide, ← h.context]
  split
  · exact h.pure _
  · exact h.rules hE fun r hr key hk => hin key (List.mem_flatMap.2 ⟨r, hr, hk⟩)

omit hE in
theorem inTurn {check₁ check₂ : Prerequisite → Eval (Option Bool)} {failed : Option String}
    {ps : List Prerequisite} (hcheck : ∀ p ∈ ps, R (check₁ p) (check₂ p)) :
    R (checkInTurn check₁ failed ps) (checkInTurn check₂ failed ps) := by
  induction ps generalizing failed with
  | nil => exact h.pure failed
  | cons p ps ih =>
    have hrest := fun q hq => hcheck q (List.mem_cons_of_mem p hq)
    refine h.bind (hcheck p List.mem_cons_self) fun found => ?_
    cases found with
    | none => exact h.pure _
    | some satisfied =>
      cases satisfied with
      | true => exact ih hrest
      | false => exact ih hrest

/-- The evaluation of a flag respects a relation of the checks of its prerequisites and of the
decisions for the segments that its rules name. -/
theorem flag {f : Flag} {pre₁ pre₂ : Eval (Option String)} (hpre : f.on = true → R pre₁ pre₂)
    (hin : ∀ key ∈ f.namedSegments, R (in₁ key) (in₂ key)) :
    R (f.evaluateWith env₁ in₁ pre₁) (f.evaluateWith env₂ in₂ pre₂) := by
  simp only [Flag.evaluateWith]
  split
  · next hon =>
    refine h.bind (hpre hon) fun failed => ?_
    cases failed with
    | some key => exact h.pure _
    | none => exact h.decide hE hin
  · exact h.pure _

end Compositional

/-! ## Congruences -/

/-- A compositional relation that holds of lookups and of consultations of big segments. -/
structure Congruence (env₁ env₂ : Environment) (E : EvalError → Prop)
    (R : ∀ ⦃α : Type⦄, Eval α → Eval α → Prop) : Prop extends Compositional env₁ env₂ E R where
  /-- Noted events are related. -/
  note : ∀ e, R (Eval.note e) (Eval.note e)
  /-- Consultations of big segments are related. -/
  consult : ∀ key reference, R (env₁.consult key reference) (env₂.consult key reference)

namespace Congruence

variable {env₁ env₂ : Environment} {E : EvalError → Prop}
  {R : ∀ ⦃α : Type⦄, Eval α → Eval α → Prop} (h : Congruence env₁ env₂ E R)
  {in₁ in₂ : String → Eval Bool}

include h

theorem verdict (s : Segment) : R (s.verdict env₁) (s.verdict env₂) := by
  simp only [Segment.verdict, Segment.storeVerdict]
  rw [← h.context]
  split
  · split
    · exact h.pure _
    · exact h.consult _ _
  · exact h.pure _

/-- Deciding a segment respects a congruence of the decisions for the segments that it names. -/
theorem segment (hE : ∀ e : EvalError, e.IsOfData → E e) {s : Segment}
    (hin : ∀ key ∈ s.namedSegments, R (in₁ key) (in₂ key)) :
    R (s.contains env₁ in₁) (s.contains env₂ in₂) :=
  h.containsAfter hE (h.verdict s) hin

/-- Looking up a segment and deciding it respects a congruence of the decisions, if the stores give
the same segment. -/
theorem findSegment {decide₁ decide₂ : Segment → Eval Bool} {key : String}
    (hfail : env₁.store.segmentFailures key = env₂.store.segmentFailures key)
    (hfind : env₁.store.data.segment? key = env₂.store.data.segment? key)
    (hstore : ∀ e, env₁.store.segmentFailures key = some e → E (.store e))
    (hdecide : ∀ s, env₁.store.data.segment? key = some s → R (decide₁ s) (decide₂ s)) :
    R (env₁.findSegment decide₁ key) (env₂.findSegment decide₂ key) := by
  rw [Environment.findSegment, Environment.findSegment, Environment.bind_segment?,
    Environment.bind_segment?, ← hfail, ← hfind]
  refine h.bind (h.note _) fun _ => ?_
  cases he : env₁.store.segmentFailures key with
  | some e => exact h.fail (hstore e he)
  | none =>
    cases hs : env₁.store.data.segment? key with
    | none => exact h.pure false
    | some s => exact hdecide s hs

/-- Looking up a prerequisite and evaluating it respects a congruence of the evaluations, if the
stores give the same flag and recording the result respects it. -/
theorem findPrerequisite {parent : String} {evaluate₁ evaluate₂ : Flag → Eval (Detail FlagValue)}
    {p : Prerequisite}
    (hfail : env₁.store.flagFailures p.key = env₂.store.flagFailures p.key)
    (hfind : env₁.store.data.flag? p.key = env₂.store.data.flag? p.key)
    (hstore : ∀ e, env₁.store.flagFailures p.key = some e → E (.store e))
    (hmalformed : E (.malformedPrerequisite p.key))
    (hrecord : ∀ g detail, R (Eval.record g parent detail) (Eval.record g parent detail))
    (hevaluate : ∀ g, env₁.store.data.flag? p.key = some g → R (evaluate₁ g) (evaluate₂ g)) :
    R (env₁.findPrerequisite evaluate₁ parent p) (env₂.findPrerequisite evaluate₂ parent p) := by
  rw [Environment.findPrerequisite, Environment.findPrerequisite, Environment.bind_flag?,
    Environment.bind_flag?, ← hfail, ← hfind]
  refine h.bind (h.note _) fun _ => ?_
  cases he : env₁.store.flagFailures p.key with
  | some e => exact h.fail (hstore e he)
  | none =>
    cases hg : env₁.store.data.flag? p.key with
    | none => exact h.pure none
    | some g =>
      refine h.bind (hevaluate g hg) fun detail => h.bind (hrecord g detail) fun _ => ?_
      split
      · exact h.fail hmalformed
      · exact h.pure _

end Congruence

end Eval

end FeatureFlags
