import FeatureFlags.Proofs.BigSegment.Anew
import FeatureFlags.Proofs.Nesting.Termination
import FeatureFlags.Proofs.Step.Growth

/-!
# What big segments cost, and what they report

Each segment that is visited is looked up, and if it is a big one and the context has an entity of
its kind then the store of big segments is consulted about the key of that entity.  The provider is
queried only for a key about which nothing is kept, so it is heard only then; but the status that is
reported is the most severe of what it says at all consultations.  That needs an account of the
whole run, which says how the memberships kept, the queries made and the status known follow from
the consultations so far, and the consultations from the segments visited.

A segment has been looked up before it is consulted, so the account is not settled in between: one
consultation is pending then.  It stays so if the levels of nesting give out just there, but they do
not.

## What is here

* `Environment.visited`, `consultation?`, `statusFor`: segments, their consultations, and what these
  report.
* `Scope.Accounts`, `Scope.Settled`: the account, with and without a consultation pending.
* `Eval.Settles`: steps that lead from one account to another.
* `evaluate_consults`: the theorem.
-/

set_option autoImplicit false

namespace FeatureFlags

open BigSegmentStatus (join join_assoc worstOf?)

/-! ## Segments and their consultations -/

/-- The keys and references about which big segments have been consulted, in order. -/
def Scope.consultations (s : Scope) : List (String × Option String) :=
  s.events.filterMap fun
    | .consultation contextKey reference => some (contextKey, reference)
    | _ => none

namespace Environment

variable (env : Environment)

/-- The segment that an event has found. -/
def found? : Event → Option Segment
  | .segmentLookup key =>
    if (env.store.segmentFailures key).isSome then none else env.store.data.segment? key
  | _ => none

/-- The segments that have been looked up and found, in order. -/
def visited (s : Scope) : List Segment := s.events.filterMap env.found?

/-- What big segments are consulted about for a segment: the key of the entity of its kind, and its
reference.  A context without the kind needs no consultation. -/
def consultation? (s : Segment) : Option (String × Option String) :=
  if s.unbounded then
    (env.context.entity? s.unboundedContextKind).map fun e => (e.key, s.storeReference?)
  else none

/-- What a consultation reports: what the provider says of its health for the key, if there are a
provider and a reference to ask for. -/
def statusFor : String × Option String → BigSegmentStatus
  | (contextKey, some _) => env.provider.elim .notConfigured fun p => (p.query contextKey).2
  | (_, none) => .notConfigured

variable {env}

theorem statusFor_of_provider {provider : Provider} (hprovider : env.provider = some provider)
    {key reference : String} :
    env.statusFor (key, some reference) = (provider.query key).2 := by
  rw [statusFor, hprovider]
  rfl

theorem statusFor_of_nobody {key : String} {reference : Option String}
    (hnobody : reference = none ∨ env.provider = none) :
    env.statusFor (key, reference) = .notConfigured := by
  cases reference with
  | none => rfl
  | some reference =>
    rw [statusFor, hnobody.resolve_left (Option.some_ne_none reference)]
    rfl

/-- A key can be asked for if a big segment with a generation is about it. -/
theorem exists_consultation?_eq_iff {S : Segment} {key : String} :
    (∃ reference, env.consultation? S = some (key, some reference)) ↔
      S.unbounded = true ∧ S.generation.isSome = true ∧
        ∃ e, env.context.entity? S.unboundedContextKind = some e ∧ e.key = key := by
  rw [consultation?, Segment.storeReference?]
  cases S.unbounded with
  | false => simp
  | true =>
    cases S.generation with
    | none => simp
    | some generation => cases env.context.entity? S.unboundedContextKind <;> simp

end Environment

/-! ## The account -/

/-- How everything that has been left behind follows from the segments visited.  One consultation may
still be pending. -/
structure Scope.Accounts (env : Environment) (pending : Option (String × Option String))
    (s : Scope) : Prop where
  /-- The consultations are those that the segments need. -/
  consulted : s.consultations ++ pending.toList = (env.visited s).filterMap env.consultation?
  /-- The status is the most severe that they report. -/
  status : s.status = worstOf? (s.consultations.map env.statusFor)
  /-- No key has been asked for twice. -/
  nodup : s.queries.Nodup
  /-- The keys that have been asked for are those about which something is kept. -/
  kept : ∀ key, key ∈ s.queries ↔ (s.memberships.find? key).isSome = true
  /-- They are those that the provider can be asked for. -/
  asked : ∀ key, key ∈ s.queries ↔
    env.provider.isSome = true ∧ ∃ reference, (key, some reference) ∈ s.consultations
  /-- What is kept is what the provider says. -/
  honest : s.Honest env

/-- No consultation is pending. -/
abbrev Scope.Settled (env : Environment) : Scope → Prop := Accounts env none

namespace Scope.Accounts

variable {env : Environment} {pending : Option (String × Option String)} {s : Scope}

theorem empty (env : Environment) : Settled env .empty where
  consulted := rfl
  status := rfl
  nodup := List.nodup_nil
  kept key := by simp [Scope.queries, Scope.empty]
  asked key := by simp [Scope.queries, Scope.consultations, Scope.empty]
  honest := Scope.honest_empty env

/-- Chains, records and warnings are no part of it. -/
theorem of_eq {t : Scope} (h : s.Accounts env pending) (hevents : t.events = s.events)
    (hstatus : t.status = s.status) (hmemberships : t.memberships = s.memberships) :
    t.Accounts env pending := by
  obtain ⟨hconsulted, hworst, hnodup, hkept, hasked, hhonest⟩ := h
  refine ⟨?_, ?_, ?_, ?_, ?_, ?_⟩
  · rw [Scope.consultations, Environment.visited, hevents]
    exact hconsulted
  · rw [Scope.consultations, hevents, hstatus]
    exact hworst
  · rw [Scope.queries, hevents]
    exact hnodup
  · rw [Scope.queries, hevents, hmemberships]
    exact hkept
  · rw [Scope.queries, Scope.consultations, hevents]
    exact hasked
  · rw [Scope.Honest, hmemberships, hstatus]
    exact hhonest

/-- A lookup is no consultation, but may call for one. -/
theorem noted (h : s.Settled env) {e : Event} (hconsultation : ∀ k r, e ≠ .consultation k r)
    (hquery : ∀ k, e ≠ .query k) :
    Accounts env ((env.found? e).bind env.consultation?) { s with events := s.events ++ [e] } := by
  obtain ⟨hconsulted, hworst, hnodup, hkept, hasked, hhonest⟩ := h
  have hconsultations : consultations { s with events := s.events ++ [e] } = s.consultations := by
    cases e <;> simp_all [consultations]
  have hqueries : queries { s with events := s.events ++ [e] } = s.queries := by
    cases e <;> simp_all [queries]
  refine ⟨?_, ?_, ?_, ?_, ?_, hhonest⟩
  · rw [hconsultations, Environment.visited, List.filterMap_append, List.filterMap_append]
    rw [Option.toList_none, List.append_nil] at hconsulted
    rw [hconsulted]
    cases hfound : env.found? e with
    | none => simp [hfound, Environment.visited]
    | some S =>
      cases hc : env.consultation? S <;> simp [hfound, hc, Environment.visited]
  · rw [hconsultations]
    exact hworst
  · rw [hqueries]
    exact hnodup
  · rw [hqueries]
    exact hkept
  · rw [hqueries, hconsultations]
    exact hasked

/-- A consultation settles the account if it is accounted for: its status is part of the one known,
and its key has been asked for if there are a provider and a reference. -/
theorem settled {c : String × Option String} {t : Scope} (h : s.Accounts env (some c))
    (hconsultations : t.consultations = s.consultations ++ [c])
    (hvisited : env.visited t = env.visited s)
    (hstatus : t.status = join s.status (some (env.statusFor c))) (hnodup : t.queries.Nodup)
    (hkept : ∀ key, key ∈ t.queries ↔ (t.memberships.find? key).isSome = true)
    (hqueries : ∀ key, key ∈ t.queries ↔
      key ∈ s.queries ∨ env.provider.isSome = true ∧ c.2.isSome = true ∧ c.1 = key)
    (hhonest : t.Honest env) : t.Settled env where
  consulted := by
    rw [hconsultations, hvisited, ← h.consulted, Option.toList_none, List.append_nil]
    rfl
  status := by
    rw [hconsultations, hstatus, List.map_append, List.map_singleton,
      BigSegmentStatus.worstOf?_append_singleton, h.status]
  nodup := hnodup
  kept := hkept
  asked key := by
    have hnew : (∃ reference, (key, some reference) = c) ↔ c.2.isSome = true ∧ c.1 = key := by
      rcases c with ⟨key', _ | reference⟩ <;> simp [eq_comm]
    rw [hqueries, h.asked, hconsultations, ← and_or_left, ← hnew, ← exists_or]
    simp only [List.mem_append, List.mem_singleton]
  honest := hhonest

/-- A consultation with nobody to ask. -/
theorem unasked {key : String} {reference : Option String}
    (h : s.Accounts env (some (key, reference)))
    (hnobody : reference = none ∨ env.provider = none) :
    Settled env (Environment.observe .notConfigured
      { s with events := s.events ++ [.consultation key reference] }).2 := by
  have hqueries : queries (Environment.observe .notConfigured
      { s with events := s.events ++ [.consultation key reference] }).2 = s.queries := by
    simp [queries, Environment.observe, Eval.update]
  refine h.settled ?_ ?_ ?_ ?_ ?_ ?_ (Honest.observe h.honest _)
  · simp [consultations, Environment.observe, Eval.update]
  · simp [Environment.visited, Environment.found?, Environment.observe, Eval.update]
  · rw [Environment.observe_status, Environment.statusFor_of_nobody hnobody]
  · rw [hqueries]
    exact h.nodup
  · rw [hqueries]
    exact h.kept
  · intro other
    rw [hqueries]
    refine ⟨Or.inl, fun hor => hor.resolve_right ?_⟩
    rintro ⟨hprovider, hreference, -⟩
    rcases hnobody with rfl | hnone
    · cases hreference
    · rw [hnone] at hprovider
      cases hprovider

/-- A consultation about a key about which something is kept. -/
theorem asKept {provider : Provider} (hprovider : env.provider = some provider) {key : String}
    {reference : String} {known : Option Membership} (h : s.Accounts env (some (key, some reference)))
    (hknown : s.memberships.find? key = some known) :
    Settled env { s with events := s.events ++ [.consultation key (some reference)] } := by
  have hqueries : queries { s with events := s.events ++ [.consultation key (some reference)] } =
      s.queries := by
    simp [queries]
  refine h.settled ?_ ?_ ?_ ?_ ?_ ?_ h.honest
  · simp [consultations]
  · simp [Environment.visited, Environment.found?]
  · rw [Environment.statusFor_of_provider hprovider]
    exact (h.honest key known hknown provider hprovider).2.symm
  · rw [hqueries]
    exact h.nodup
  · rw [hqueries]
    exact h.kept
  · intro other
    rw [hqueries]
    refine ⟨Or.inl, fun hor => hor.elim id ?_⟩
    rintro ⟨-, -, rfl⟩
    rw [h.kept, hknown]
    rfl

/-- A consultation about a key that has to be asked for. -/
theorem asAsked {provider : Provider} (hprovider : env.provider = some provider) {key : String}
    {reference : String} (h : s.Accounts env (some (key, some reference)))
    (hunknown : s.memberships.find? key = none) :
    Settled env (Environment.asked provider key
      { s with events := s.events ++ [.consultation key (some reference)] }) := by
  have hqueries : queries (Environment.asked provider key
      { s with events := s.events ++ [.consultation key (some reference)] }) =
        s.queries ++ [key] := by
    simp [queries, Environment.asked]
  have hfresh : key ∉ s.queries := by
    rw [h.kept, hunknown]
    exact Bool.false_ne_true
  refine h.settled ?_ ?_ ?_ ?_ ?_ ?_ (Honest.asked h.honest hprovider key)
  · simp [consultations, Environment.asked]
  · simp [Environment.visited, Environment.found?, Environment.asked]
  · rw [Environment.statusFor_of_provider hprovider]
    exact Environment.observe_status _ _
  · rw [hqueries, List.nodup_append]
    refine ⟨h.nodup, by simp, fun other hother new hnew => ?_⟩
    rw [List.mem_singleton.1 hnew]
    exact fun heq => hfresh (heq ▸ hother)
  · intro other
    rw [hqueries, List.mem_append, List.mem_singleton, Environment.asked, SortedMap.find?_insert]
    split
    · next heq => exact iff_of_true (Or.inr heq.symm) rfl
    · next hne =>
      rw [← h.kept, or_iff_left (Ne.symm hne)]
  · intro other
    rw [hqueries]
    simp [hprovider, eq_comm]

end Scope.Accounts

/-! ## Steps

Most steps keep the account settled.  Deciding a segment settles it, unless the levels give out. -/

namespace Eval

variable {α β : Type} {env : Environment} {I J : Scope → Prop}

/-- From a scope with `I` the step ends in one with `J`, if it does not go too deep. -/
def Settles (I J : Scope → Prop) (x : Eval α) : Prop :=
  ∀ s, I s → (x s).1 ≠ .error .tooDeep → J (x s).2

namespace Settles

theorem pure (a : α) : Settles I I (Pure.pure a) := fun _ hs _ => hs

theorem fail (e : EvalError) : Settles I I (Eval.fail e : Eval α) := fun _ hs _ => hs

theorem tooDeep : Settles I J (Eval.fail .tooDeep : Eval α) := fun _ _ h => absurd rfl h

theorem bind {x : Eval α} {f : α → Eval β} {K : Scope → Prop} (hx : Settles I J x)
    (hf : ∀ a, Settles J K (f a)) (herror : ∀ s, J s → K s) : Settles I K (x >>= f) := by
  intro s hs hdepth
  rcases hxs : x s with ⟨r, t⟩
  cases r with
  | error e =>
    rw [bind_of_error hxs] at hdepth ⊢
    have ht := hx s hs
    rw [hxs] at ht
    exact herror t (ht fun h => hdepth (by cases h; rfl))
  | ok a =>
    rw [bind_of_ok hxs] at hdepth ⊢
    have ht := hx s hs
    rw [hxs] at ht
    -- a step that gives a value has not gone too deep
    exact hf a t (ht fun h => by cases h) hdepth

theorem update {f : Scope → Scope} (h : ∀ s, I s → J (f s)) : Settles I J (Eval.update f) :=
  fun s hs _ => h s hs

/-- Keeping an account settled is compositional, if warnings are no part of it. -/
theorem compositional (env : Environment)
    (hwarn : ∀ s ws, I s → I { s with warnings := s.warnings ++ ws }) :
    Compositional env env (fun _ => True) fun _ x _ => Settles I I x where
  context := rfl
  pure := pure
  bind hx hf := bind hx hf fun _ hs => hs
  fail _ := fail _
  warn ws := update fun s hs => hwarn s ws hs

end Settles

end Eval

namespace Environment

variable {env : Environment} {s : Scope}

theorem consult_settled {key : String} {reference : Option String}
    (h : s.Accounts env (some (key, reference))) :
    (env.consult key reference s).2.Settled env := by
  cases reference with
  | none => exact h.unasked (Or.inl rfl)
  | some reference =>
    unfold consult
    cases hprovider : env.provider with
    | none => exact h.unasked (Or.inr hprovider)
    | some provider =>
      cases hknown : s.memberships.find? key with
      | some known =>
        have hkept : membership? provider key
            { s with events := s.events ++ [.consultation key (some reference)] } = _ :=
          membership?_of_known hknown
        simp only [Bind.bind, Eval.bind, Eval.note, Eval.update, hkept]
        exact h.asKept hprovider hknown
      | none =>
        have hasked : membership? provider key
            { s with events := s.events ++ [.consultation key (some reference)] } = _ :=
          membership?_of_unknown hknown
        simp only [Bind.bind, Eval.bind, Eval.note, Eval.update, hasked]
        exact h.asAsked hprovider hknown

/-- Looking at a segment makes the consultation that it needs. -/
theorem verdict_settled {S : Segment} (h : s.Accounts env (env.consultation? S)) :
    (S.verdict env s).2.Settled env := by
  rw [consultation?] at h
  rw [Segment.verdict, Segment.storeVerdict]
  split
  · next hunbounded =>
    rw [if_pos hunbounded] at h
    cases hentity : env.context.entity? S.unboundedContextKind with
    | none =>
      rw [hentity] at h
      exact h
    | some e =>
      rw [hentity] at h
      exact consult_settled h
  · next hlisted =>
    rw [if_neg hlisted] at h
    exact h

/-- Deciding a segment settles the account, if deciding the segments named keeps it settled. -/
theorem contains_settles {S : Segment} {inSegment : String → Eval Bool}
    (hin : ∀ key, Eval.Settles (Scope.Settled env) (Scope.Settled env) (inSegment key)) :
    Eval.Settles (Scope.Accounts env (env.consultation? S)) (Scope.Settled env)
      (S.contains env inSegment) := by
  have hcompositional := Eval.Settles.compositional (I := Scope.Settled env) env
    fun _ _ hs => hs.of_eq rfl rfl rfl
  refine Eval.Settles.bind (J := Scope.Settled env) (fun _ hs _ => verdict_settled hs) ?_
    fun _ hs => hs
  exact @Eval.Compositional.containsGiven env env _ _ hcompositional inSegment inSegment
    (fun _ _ => trivial) S fun key _ => hin key

/-- The chain is no part of the account. -/
theorem withSegment_settles {α : Type} {pending : Option (String × Option String)} {key : String}
    {x : Eval α} (h : Eval.Settles (Scope.Accounts env pending) (Scope.Settled env) x) :
    Eval.Settles (Scope.Accounts env pending) (Scope.Settled env) (Eval.withSegment key x) := by
  intro s hs hdepth
  have hentered : Scope.Accounts env pending
      { s with segmentChain := Eval.enter key s.segmentChain } := hs.of_eq rfl rfl rfl
  exact (h _ hentered hdepth).of_eq rfl rfl rfl

/-- Entering a segment keeps the account settled, if deciding a segment settles it. -/
theorem enterSegment_settles {decide : Segment → Eval Bool}
    (hdecide : ∀ S, Eval.Settles (Scope.Accounts env (env.consultation? S)) (Scope.Settled env)
      (decide S)) (key : String) :
    Eval.Settles (Scope.Settled env) (Scope.Settled env) (env.enterSegment decide key) := by
  intro s hs
  have hlookup := hs.noted (e := .segmentLookup key) nofun nofun
  by_cases hmem : key ∈ s.segmentChain
  · rw [enterSegment_of_mem hmem]
    exact fun _ => hs
  · have hnote : Eval.note (.segmentLookup key) s =
        (.ok (), { s with events := s.events ++ [.segmentLookup key] }) := rfl
    rw [enterSegment_of_not_mem hmem, findSegment, bind_segment?, Eval.bind_of_ok hnote]
    rw [found?] at hlookup
    cases hfail : env.store.segmentFailures key with
    | some e =>
      rw [hfail] at hlookup
      exact fun _ => hlookup
    | none =>
      rw [hfail] at hlookup
      cases hfound : env.store.data.segment? key with
      | none =>
        rw [hfound] at hlookup
        exact fun _ => hlookup
      | some S =>
        -- the consultation of the segment is pending until it is decided
        rw [hfound] at hlookup
        exact withSegment_settles (hdecide S) _ hlookup

theorem inSegment_settles (depth : Nat) (key : String) :
    Eval.Settles (Scope.Settled env) (Scope.Settled env) (env.inSegment depth key) := by
  induction depth generalizing key with
  | zero => exact enterSegment_settles (fun _ => Eval.Settles.tooDeep) key
  | succ depth ih => exact enterSegment_settles (fun _ => contains_settles ih) key

/-- With levels enough, the account is kept settled in any case. -/
theorem inSegment_settled (key : String) :
    Eval.Keeps (Scope.Settled env) (env.inSegment env.segmentDepth key) (fun _ => True)
      fun _ => True := by
  intro s hs
  refine ⟨inSegment_settles _ key s hs (inSegment_ne_tooDeep key s), ?_⟩
  split <;> trivial

/-- Flags look up flags besides, which calls for no consultation. -/
theorem flagCongruence_settled (env : Environment) :
    Eval.FlagCongruence env env fun _ x _ =>
      Eval.Keeps (Scope.Settled env) x (fun _ => True) fun _ => True where
  context := rfl
  pure _ := Eval.Keeps.pure trivial
  bind hx hf := Eval.Keeps.bind hx fun a _ => hf a
  fail _ := Eval.Keeps.fail trivial
  warn _ := Eval.Keeps.update (fun _ hs => hs.of_eq rfl rfl rfl) trivial
  flagChain := fun _ hs => ⟨hs, trivial⟩
  withFlag _ _ _ h := Eval.Keeps.around (fun _ hs => hs.of_eq rfl rfl rfl)
    (fun _ hs => hs.of_eq rfl rfl rfl) h
  flag? key := by
    intro s hs
    rw [flag?_apply]
    refine ⟨hs.noted (e := .flagLookup key) nofun nofun, ?_⟩
    split <;> trivial
  record _ _ _ := Eval.Keeps.update (fun _ hs => hs.of_eq rfl rfl rfl) trivial

theorem evaluateAbove_settled {evaluate : Flag → Eval (Detail FlagValue)}
    (hevaluate : ∀ g, Eval.Keeps (Scope.Settled env) (evaluate g) (fun _ => True) fun _ => True)
    (f : Flag) :
    Eval.Keeps (Scope.Settled env) (env.evaluateAbove evaluate f) (fun _ => True)
      fun _ => True :=
  @Eval.FlagCongruence.level env env _ (flagCongruence_settled env) evaluate evaluate hevaluate
    _ (env.inSegment env.segmentDepth) inSegment_settled f

/-- **An evaluation keeps its account**, whether it fails or not. -/
theorem evaluateFlag_settled (depth : Nat) (f : Flag) :
    Eval.Keeps (Scope.Settled env) (env.evaluateFlag depth f) (fun _ => True)
      fun _ => True := by
  induction depth generalizing f with
  | zero => exact evaluateAbove_settled (fun _ => Eval.Keeps.fail trivial) f
  | succ depth ih => exact evaluateAbove_settled ih f

end Environment

/-! ## Whole evaluations -/

/-- **Big segments are asked for as little as possible, and report all the same.**  An evaluation
gives what it would give if it asked the provider at each consultation.  It queries no key twice, and
just the keys of those entities of the context that a big segment with a generation is about, if
there is a provider.  The consultations are those that the segments visited need.  The status is
missing if there are none, and otherwise it is the most severe that they report. -/
theorem evaluate_consults (env : Environment) (f : Flag) :
    let visited := env.visited (env.run f).2
    let consulted := visited.filterMap env.consultation?
    let reported := consulted.map env.statusFor
    ((evaluate env f).detail = (evaluateAnew env f).detail ∧
      (evaluate env f).records = (evaluateAnew env f).records) ∧
    (evaluate env f).queries.Nodup ∧
    (∀ key, key ∈ (evaluate env f).queries ↔ env.provider.isSome = true ∧
      ∃ s ∈ visited, s.unbounded = true ∧ s.generation.isSome = true ∧
        ∃ e, env.context.entity? s.unboundedContextKind = some e ∧ e.key = key) ∧
    (env.run f).2.consultations = consulted ∧
    ((evaluate env f).detail.status = none ↔ consulted = []) ∧
    ∀ status, (evaluate env f).detail.status = some status ↔
      status ∈ reported ∧ ∀ other ∈ reported, other.atMost status = true := by
  intro visited consulted reported
  have h : (env.run f).2.Settled env :=
    (Environment.evaluateFlag_settled env.flagDepth f .empty (.empty env)).1
  have hconsulted : (env.run f).2.consultations = consulted := by
    rw [← List.append_nil (env.run f).2.consultations]
    exact h.consulted
  have hstatus : (evaluate env f).detail.status = worstOf? reported := by
    rw [evaluate, Evaluation.ofRun_status, h.status, hconsulted]
  have hsame := evaluate_eq_evaluateAnew env f
  refine ⟨⟨hsame.1, hsame.2.1⟩, ?_, fun key => ?_, hconsulted, ?_, fun status => ?_⟩
  · rw [evaluate, Evaluation.ofRun_queries]
    exact h.nodup
  · have hasked : (∃ reference, (key, some reference) ∈ consulted) ↔ ∃ s ∈ visited,
        ∃ reference, env.consultation? s = some (key, some reference) := by
      simp only [consulted, List.mem_filterMap]
      constructor
      · rintro ⟨reference, s, hs, hreference⟩
        exact ⟨s, hs, reference, hreference⟩
      · rintro ⟨s, hs, reference, hreference⟩
        exact ⟨reference, s, hs, hreference⟩
    rw [evaluate, Evaluation.ofRun_queries, h.asked, hconsulted, hasked]
    simp only [Environment.exists_consultation?_eq_iff]
  · rw [hstatus, BigSegmentStatus.worstOf?_eq_none_iff, List.map_eq_nil_iff]
  · rw [hstatus, BigSegmentStatus.worstOf?_eq_some_iff]

/-- Three big segments, one of them without a generation, and a provider that knows of no key. -/
def crowded : Environment where
  store := .ofDataset (.ofItems [] (["vip", "beta", "old"].map fun key =>
    { Segment.naming key [] [] with
      unbounded := true
      generation := if key = "old" then none else some 1 }))
  provider := some ⟨fun _ => (none, .stale)⟩
  context := .ofUserKey "u"

/-- The provider is heard once, and the segment without a generation is the worst. -/
theorem evaluate_consults_crowded :
    let page := (Flag.requiring "page" []).forSegments ["vip", "beta", "old"]
    (crowded.run page).2.consultations =
        [("u", some "vip.g1"), ("u", some "beta.g1"), ("u", none)] ∧
      (evaluate crowded page).queries = ["u"] ∧ (evaluateAnew crowded page).queries = ["u", "u"] ∧
      (evaluate crowded page).detail = (evaluateAnew crowded page).detail ∧
      (evaluate crowded page).detail.status = some .notConfigured := by
  intro page
  obtain ⟨hsame, -, -, -, -, hstatus⟩ := evaluate_consults crowded page
  refine ⟨by decide +kernel, by decide +kernel, by decide +kernel, hsame.1, ?_⟩
  rw [hstatus]
  decide +kernel

end FeatureFlags
