import FeatureFlags.Proofs.BigSegment.Status
import FeatureFlags.Proofs.Step.Congruence

/-!
# Evaluations inside of others and on their own

The prerequisites of a flag are evaluated in its scope: with keys on the chains, with fewer levels
to go, with memberships that earlier parts have asked for, and with their records, queries and
statuses at hand.  None of this changes what a flag or a segment gives.  Whatever is given inside of
another evaluation is also given alone, and the scope gains just what it does when it begins empty.

The status is the only thing that is not simply appended.  A step that needs a membership again does
not hear of the status again; but then the status was heard when the membership was, and so is part
of what is known.

Errors are another matter.  A key that is on a chain fails inside and need not do so alone, so
nothing is said about steps that fail.

## What is here

* `Scope.Honest`: the memberships kept are those of the provider.
* `Scope.Gains`: a scope is another one with what an evaluation from the start has added.
* `Eval.Isolates`: what one step gives inside of an evaluation, another gives alone.
* `Environment.evaluateFlag_isolates`: evaluations of flags do.
-/

set_option autoImplicit false

namespace FeatureFlags

open BigSegmentStatus (join join_assoc join_comm join_self join_join_eq)

/-- The detail with a status that was known before. -/
def Detail.after {α : Type} (status : Option BigSegmentStatus) (d : Detail α) : Detail α :=
  { d with status := join status d.status }

/-- The record with a status that was known before. -/
def PrerequisiteRecord.after (status : Option BigSegmentStatus) (r : PrerequisiteRecord) :
    PrerequisiteRecord :=
  { r with detail := r.detail.after status }

/-! ## Memberships

A membership is asked for once, and the health of the store is heard with it. -/

namespace Environment

variable {provider : Provider} {key : String} {s : Scope}

theorem observe_status (status : BigSegmentStatus) (s : Scope) :
    (observe status s).2.status = join s.status (some status) := by
  cases h : s.status with
  | none => simp [observe, Eval.update, h]
  | some old => simp [observe, Eval.update, h, join]

/-- The scope after the provider was asked. -/
def asked (provider : Provider) (key : String) (s : Scope) : Scope :=
  { (observe (provider.query key).2 s).2 with
    memberships := s.memberships.insert key (provider.query key).1
    events := s.events ++ [.query key] }

/-- A membership that is known is given, and nothing is done. -/
theorem membership?_of_known {known : Option Membership}
    (h : s.memberships.find? key = some known) : membership? provider key s = (.ok known, s) := by
  simp only [membership?, Bind.bind, Eval.bind, Eval.read, h]
  rfl

/-- A membership that is not known is asked for. -/
theorem membership?_of_unknown (h : s.memberships.find? key = none) :
    membership? provider key s = (.ok (provider.query key).1, asked provider key s) := by
  simp only [membership?, Bind.bind, Eval.bind, Eval.read, h]
  rfl

end Environment

/-- The memberships kept are what the provider says, and the status is at least as severe as what it
said of its health. -/
def Scope.Honest (env : Environment) (s : Scope) : Prop :=
  ∀ key known, s.memberships.find? key = some known → ∀ provider, env.provider = some provider →
    known = (provider.query key).1 ∧ join s.status (some (provider.query key).2) = s.status

namespace Scope

variable {env : Environment} {s : Scope}

theorem honest_empty (env : Environment) : empty.Honest env := by
  intro key known h
  rw [empty, SortedMap.find?_empty] at h
  cases h

theorem Honest.observe (h : s.Honest env) (status : BigSegmentStatus) :
    (Environment.observe status s).2.Honest env := by
  intro key known hknown provider hprovider
  obtain ⟨hsaid, hstatus⟩ := h key known hknown provider hprovider
  rw [Environment.observe_status]
  exact ⟨hsaid, join_join_eq hstatus _⟩

theorem Honest.asked (h : s.Honest env) {provider : Provider}
    (hprovider : env.provider = some provider) (key : String) :
    (Environment.asked provider key s).Honest env := by
  intro other known hknown provider' hprovider'
  simp only [Environment.asked, SortedMap.find?_insert] at hknown
  split at hknown
  · next heq =>
    obtain rfl := heq
    obtain rfl := Option.some.inj (hprovider.symm.trans hprovider')
    cases hknown
    refine ⟨rfl, ?_⟩
    simp only [Environment.asked]
    rw [Environment.observe_status, join_assoc, join_self]
  · exact h.observe (provider.query key).2 other known hknown provider' hprovider'

end Scope

/-! ## Scopes -/

/-- The scope `s` is `base` with what an evaluation has added that got from the start to `t`. -/
structure Scope.Gains (env : Environment) (base s t : Scope) : Prop where
  /-- Alone, no more flags are being evaluated. -/
  flagChain : ∀ key ∈ t.flagChain, key ∈ s.flagChain
  /-- Alone, no more segments are being decided. -/
  segmentChain : ∀ key ∈ t.segmentChain, key ∈ s.segmentChain
  /-- The records are added, with the status known before. -/
  records : s.records = base.records ++ t.records.map (·.after base.status)
  /-- The status is joined. -/
  status : s.status = join base.status t.status
  /-- The memberships are added. -/
  memberships : ∀ key, s.memberships.find? key =
    (t.memberships.find? key).or (base.memberships.find? key)
  /-- Alone, the memberships kept are those of the provider. -/
  honest : t.Honest env

namespace Scope.Gains

variable {env : Environment} {base s t : Scope}

theorem self (env : Environment) (base : Scope) : Gains env base base .empty where
  flagChain _ h := absurd h List.not_mem_nil
  segmentChain _ h := absurd h List.not_mem_nil
  records := by simp [empty]
  status := by simp [empty]
  memberships key := by simp [empty]
  honest := honest_empty env

/-- What was honest stays so. -/
theorem honest_of_honest (h : Gains env base s t) (hbase : base.Honest env) : s.Honest env := by
  intro key known hs provider hprovider
  rw [h.memberships key, Option.or_eq_some_iff] at hs
  rw [h.status]
  rcases hs with ht | ⟨-, hb⟩
  · obtain ⟨hsaid, hstatus⟩ := h.honest key known ht provider hprovider
    exact ⟨hsaid, by rw [join_assoc, hstatus]⟩
  · obtain ⟨hsaid, hstatus⟩ := hbase key known hb provider hprovider
    exact ⟨hsaid, join_join_eq hstatus _⟩

/-- Both hear of the health of the store of big segments. -/
theorem observe (h : Gains env base s t) (status : BigSegmentStatus) :
    Gains env base (Environment.observe status s).2 (Environment.observe status t).2 := by
  refine ⟨h.flagChain, h.segmentChain, h.records, ?_, h.memberships, h.honest.observe status⟩
  rw [Environment.observe_status, Environment.observe_status, h.status, join_assoc]

/-- Both ask for a membership. -/
theorem asked (h : Gains env base s t) {provider : Provider}
    (hprovider : env.provider = some provider) (key : String) :
    Gains env base (Environment.asked provider key s) (Environment.asked provider key t) := by
  have hstatus := (h.observe (provider.query key).2).status
  refine ⟨h.flagChain, h.segmentChain, h.records, hstatus, ?_, h.honest.asked hprovider key⟩
  intro other
  simp only [Environment.asked, SortedMap.find?_insert]
  split
  · rfl
  · exact h.memberships other

/-- Alone, a membership is asked for that was known before. -/
theorem askedAlone (h : Gains env base s t) {provider : Provider}
    (hprovider : env.provider = some provider) {key : String}
    (hknown : base.memberships.find? key = some (provider.query key).1)
    (hstatus : join base.status (some (provider.query key).2) = base.status)
    (ht : t.memberships.find? key = none) :
    Gains env base s (Environment.asked provider key t) := by
  refine ⟨h.flagChain, h.segmentChain, h.records, ?_, fun other => ?_,
    h.honest.asked hprovider key⟩
  · simp only [Environment.asked]
    rw [Environment.observe_status, ← join_assoc, ← h.status, h.status, join_join_eq hstatus]
  · simp only [Environment.asked, SortedMap.find?_insert]
    split
    · next heq =>
      obtain rfl := heq
      rw [h.memberships, ht, hknown]
      rfl
    · exact h.memberships other

end Scope.Gains

/-! ## Steps -/

namespace Eval

variable {α β : Type} {env : Environment} {base : Scope}

/-- Whatever the first step gives in a scope that has grown from `base`, the second gives alone, and
the scope has grown by what it does alone. -/
def Isolates (env : Environment) (base : Scope) (x y : Eval α) : Prop :=
  ∀ s t, base.Gains env s t → ∀ a s', x s = (.ok a, s') →
    ∃ t', y t = (.ok a, t') ∧ base.Gains env s' t'

namespace Isolates

theorem pure (a : α) : Isolates env base (Pure.pure a) (Pure.pure a) := by
  intro s t hst b s' h
  cases h
  exact ⟨t, rfl, hst⟩

theorem bind {x y : Eval α} {f g : α → Eval β} (hx : Isolates env base x y)
    (hf : ∀ a, Isolates env base (f a) (g a)) : Isolates env base (x >>= f) (y >>= g) := by
  intro s t hst b s'' h
  obtain ⟨a, s', hxs, hfs⟩ := bind_eq_ok.1 h
  obtain ⟨t', hyt, hst'⟩ := hx s t hst a s' hxs
  obtain ⟨t'', hgt, hst''⟩ := hf a s' t' hst' b s'' hfs
  exact ⟨t'', bind_eq_ok.2 ⟨a, t', hyt, hgt⟩, hst''⟩

theorem fail (e : EvalError) (y : Eval α) : Isolates env base (Eval.fail e) y := by
  intro s t _ a s' h
  cases h

theorem update {f g : Scope → Scope}
    (hfg : ∀ s t, base.Gains env s t → base.Gains env (f s) (g t)) :
    Isolates env base (Eval.update f) (Eval.update g) := by
  intro s t hst a s' h
  cases h
  exact ⟨g t, rfl, hfg s t hst⟩

theorem note (e : Event) : Isolates env base (Eval.note e) (Eval.note e) :=
  update fun _ _ h => ⟨h.flagChain, h.segmentChain, h.records, h.status, h.memberships, h.honest⟩

theorem warn (ws : List Warning) : Isolates env base (Eval.warn ws) (Eval.warn ws) :=
  update fun _ _ h => ⟨h.flagChain, h.segmentChain, h.records, h.status, h.memberships, h.honest⟩

theorem observe (status : BigSegmentStatus) :
    Isolates env base (Environment.observe status) (Environment.observe status) :=
  update fun _ _ h => h.observe status

/-- A record is added to both, with the status that is known by then. -/
theorem record (g : Flag) (parent : String) (detail : Detail FlagValue) :
    Isolates env base (Eval.record g parent detail) (Eval.record g parent detail) := by
  refine update fun s t h => ?_
  refine ⟨h.flagChain, h.segmentChain, ?_, h.status, h.memberships, h.honest⟩
  rw [h.records, h.status, List.map_append, List.append_assoc]
  rfl

/-- A membership that is known inside may have to be asked for alone.  What the provider says then
is what was known, and the status it gives was heard before. -/
theorem membership? (hbase : base.Honest env) {provider : Provider}
    (hprovider : env.provider = some provider) (key : String) :
    Isolates env base (Environment.membership? provider key)
      (Environment.membership? provider key) := by
  intro s t hst a s' h
  have hs := hst.memberships key
  cases ht : t.memberships.find? key with
  | some known =>
    rw [ht, Option.some_or] at hs
    rw [Environment.membership?_of_known hs] at h
    cases h
    exact ⟨t, Environment.membership?_of_known ht, hst⟩
  | none =>
    rw [ht, Option.none_or] at hs
    cases hb : base.memberships.find? key with
    | some known =>
      obtain ⟨rfl, hstatus⟩ := hbase key known hb provider hprovider
      rw [Environment.membership?_of_known (hs.trans hb)] at h
      cases h
      exact ⟨_, Environment.membership?_of_unknown ht, hst.askedAlone hprovider hb hstatus ht⟩
    | none =>
      rw [Environment.membership?_of_unknown (hs.trans hb)] at h
      cases h
      exact ⟨_, Environment.membership?_of_unknown ht, hst.asked hprovider key⟩

/-- **What is given inside of an evaluation is given alone.**  This is a congruence, so it needs to
be shown only of chains and levels. -/
theorem congruence (hbase : base.Honest env) :
    Congruence env env (fun _ => True) fun _ x y => Isolates env base x y where
  context := rfl
  pure := pure
  bind := bind
  fail _ := fail _ _
  note := note
  warn := warn
  consult key reference := by
    refine bind (note _) fun _ => ?_
    split
    · exact bind (observe _) fun _ => pure _
    · exact bind (observe _) fun _ => pure _
    · next hprovider => exact bind (membership? hbase hprovider key) fun _ => pure _

/-! ## Chains -/

theorem mem_enter {key other : String} {C C' : List String} (h : ∀ k ∈ C, k ∈ C')
    (hother : other ∈ enter key C) : other ∈ enter key C' := by
  have hmem : ∀ C : List String, other ∈ enter key C ↔ other = key ∨ other ∈ C := by
    intro C
    rw [enter]
    split
    · next hkey =>
      constructor
      · exact Or.inr
      · rintro (rfl | hC)
        · simpa using hkey
        · exact hC
    · exact List.mem_cons
  rw [hmem] at hother ⊢
  exact hother.imp_right (h other)

theorem mem_leave {key other : String} {C C' : List String} (h : ∀ k ∈ C, k ∈ C')
    (hother : other ∈ leave key C) : other ∈ leave key C' := by
  rw [leave, List.mem_filter] at hother ⊢
  exact ⟨h other hother.1, hother.2⟩

/-- A step in a changed scope, if both scopes can be changed. -/
theorem around {before after : Scope → Scope} {x y : Eval α}
    (hbefore : ∀ s t, base.Gains env s t → base.Gains env (before s) (before t))
    (hafter : ∀ s t, base.Gains env s t → base.Gains env (after s) (after t))
    (h : Isolates env base x y) :
    Isolates env base (Eval.around before after x) (Eval.around before after y) := by
  intro s t hst a s'' hs
  obtain ⟨s', hs', rfl⟩ := around_eq_ok hs
  obtain ⟨t', ht', hst'⟩ := h _ _ (hbefore s t hst) a s' hs'
  refine ⟨after t', ?_, hafter s' t' hst'⟩
  rw [Eval.around, ht']

theorem withFlag {x y : Eval α} (key : String) (h : Isolates env base x y) :
    Isolates env base (Eval.withFlag key x) (Eval.withFlag key y) :=
  around (fun _ _ hst => { hst with flagChain := fun _ => mem_enter hst.flagChain })
    (fun _ _ hst => { hst with flagChain := fun _ => mem_leave hst.flagChain }) h

theorem withSegment {x y : Eval α} (key : String) (h : Isolates env base x y) :
    Isolates env base (Eval.withSegment key x) (Eval.withSegment key y) :=
  around (fun _ _ hst => { hst with segmentChain := fun _ => mem_enter hst.segmentChain })
    (fun _ _ hst => { hst with segmentChain := fun _ => mem_leave hst.segmentChain }) h

/-- What is done only if a key is not on a chain can also be done alone. -/
theorem unlessOn {f : Scope → List String} (hf : ∀ s t, base.Gains env s t → ∀ key ∈ f t, key ∈ f s)
    {key : String} {e : EvalError} {x y : Eval α} (h : Isolates env base x y) :
    Isolates env base
      (Eval.read f >>= fun chain => if chain.contains key then Eval.fail e else x)
      (Eval.read f >>= fun chain => if chain.contains key then Eval.fail e else y) := by
  intro s t hst a s' hs
  obtain ⟨chain, s₁, hread, hs⟩ := bind_eq_ok.1 hs
  cases hread
  split at hs
  · cases hs
  · next hkey =>
    obtain ⟨t', ht, hst'⟩ := h s t hst a s' hs
    refine ⟨t', bind_eq_ok.2 ⟨f t, t, rfl, ?_⟩, hst'⟩
    rw [if_neg fun hmem => hkey (by simpa using hf s t hst key (by simpa using hmem))]
    exact ht

end Isolates

end Eval

/-! ## Segments and flags -/

namespace Environment

variable {env : Environment} {base : Scope}

theorem enterSegment_isolates (hbase : base.Honest env) {decide₁ decide₂ : Segment → Eval Bool}
    (hdecide : ∀ s, Eval.Isolates env base (decide₁ s) (decide₂ s)) (key : String) :
    Eval.Isolates env base (env.enterSegment decide₁ key) (env.enterSegment decide₂ key) := by
  refine Eval.Isolates.unlessOn (fun _ _ h => h.segmentChain) ?_
  exact (Eval.Isolates.congruence hbase).findSegment rfl rfl (fun _ _ => trivial) fun s _ =>
    (hdecide s).withSegment key

theorem inSegment_isolates (hbase : base.Honest env) {depth : Nat} (key : String) :
    Eval.Isolates env base (env.inSegment depth key) (env.inSegment depth key) := by
  induction depth generalizing key with
  | zero => exact enterSegment_isolates hbase (fun _ => Eval.Isolates.fail _ _) key
  | succ depth ih =>
    refine enterSegment_isolates hbase (fun s => ?_) key
    exact (Eval.Isolates.congruence hbase).segment (fun _ _ => trivial) fun key _ => ih key

theorem enterPrerequisite_isolates (hbase : base.Honest env)
    {evaluate₁ evaluate₂ : Flag → Eval (Detail FlagValue)}
    (hevaluate : ∀ g, Eval.Isolates env base (evaluate₁ g) (evaluate₂ g)) (parent : String)
    (p : Prerequisite) :
    Eval.Isolates env base (env.enterPrerequisite evaluate₁ parent p)
      (env.enterPrerequisite evaluate₂ parent p) := by
  refine Eval.Isolates.unlessOn (fun _ _ h => h.flagChain) ?_
  exact (Eval.Isolates.congruence hbase).findPrerequisite rfl rfl (fun _ _ => trivial) trivial
    (fun g detail => Eval.Isolates.record g parent detail) fun g _ => hevaluate g

/-- Targets, rules and fallthrough. -/
theorem decide_isolates (hbase : base.Honest env) (f : Flag) :
    Eval.Isolates env base (f.decide env (env.inSegment env.segmentDepth))
      (f.decide env (env.inSegment env.segmentDepth)) :=
  (Eval.Isolates.congruence hbase).decide (fun _ _ => trivial) fun key _ =>
    inSegment_isolates hbase key

theorem evaluateAbove_isolates (hbase : base.Honest env)
    {evaluate₁ evaluate₂ : Flag → Eval (Detail FlagValue)}
    (hevaluate : ∀ g, Eval.Isolates env base (evaluate₁ g) (evaluate₂ g)) (f : Flag) :
    Eval.Isolates env base (env.evaluateAbove evaluate₁ f) (env.evaluateAbove evaluate₂ f) := by
  refine (Eval.Isolates.congruence hbase).flag (fun _ _ => trivial) (fun _ => ?_) fun key _ =>
    inSegment_isolates hbase key
  refine Eval.Isolates.withFlag f.key ?_
  exact (Eval.Isolates.congruence hbase).inTurn fun p _ =>
    enterPrerequisite_isolates hbase hevaluate f.key p

/-- **What a flag gives inside of an evaluation, it gives alone**, with at least as many levels. -/
theorem evaluateFlag_isolates (hbase : base.Honest env) {m n : Nat} (h : m ≤ n) (f : Flag) :
    Eval.Isolates env base (env.evaluateFlag m f) (env.evaluateFlag n f) := by
  induction m generalizing n f with
  | zero =>
    cases n with
    | zero => exact evaluateAbove_isolates hbase (fun _ => Eval.Isolates.fail _ _) f
    | succ n => exact evaluateAbove_isolates hbase (fun _ => Eval.Isolates.fail _ _) f
  | succ m ih =>
    obtain ⟨n, rfl⟩ := Nat.exists_eq_add_of_lt h
    exact evaluateAbove_isolates hbase (fun g => ih (by omega) g) f

end Environment

end FeatureFlags
