import FeatureFlags.Proofs.Step.Invariant

/-!
# How deep segments are nested

Deciding a segment may mean deciding others, and the evaluation is given a number of levels for
that.  They always suffice: a segment that is entered is one of the store and goes on the chain, and
a key on the chain is not entered again, so every level uses up a key of the store.  What is left is
counted by `SortedMap.keysOff`.

On the way to that, `Environment.inSegment_keeps` also says that the chains and the records are the
same after deciding a segment as before, whatever happens, and what it can fail with.

## What is here

* `SortedMap.keysOff`: the keys of a map that are not on a chain.
* `Environment.RuleError`: what rules can fail with.
* `Environment.inSegment_keeps`, `Environment.decide_keeps`: segments, and flags whose
  prerequisites are satisfied.
-/

set_option autoImplicit false

namespace FeatureFlags

/-! ## Keys that are not on a chain -/

namespace SortedMap

variable {α : Type} (m : SortedMap α)

/-- The keys of a map that are not on a chain. -/
def keysOff (chain : List String) : List String := m.keys.filter fun key => key ∉ chain

variable {m}

theorem mem_keys_of_find? {key : String} {value : α} (h : m.find? key = some value) :
    key ∈ m.keys := by
  rw [find?] at h
  rw [keys]
  generalize m.entries = entries at h
  induction entries with
  | nil => exact absurd h (by simp [lookup])
  | cons entry rest ih =>
    obtain ⟨k, v⟩ := entry
    rw [lookup] at h
    rw [List.map_cons, List.mem_cons]
    split at h
    · next heq => exact Or.inl heq.symm
    · exact Or.inr (ih h)

theorem length_keysOff_le (chain : List String) : (m.keysOff chain).length ≤ m.size := by
  rw [size, ← List.length_map (f := Prod.fst)]
  exact List.length_filter_le _ _

/-- Putting a key on the chain uses it up. -/
theorem length_keysOff_cons_lt {key : String} {value : α} {chain : List String}
    (h : m.find? key = some value) (hkey : key ∉ chain) :
    (m.keysOff (key :: chain)).length < (m.keysOff chain).length := by
  have hfilter : m.keysOff (key :: chain) = (m.keysOff chain).filter fun k => k ≠ key := by
    rw [keysOff, keysOff, List.filter_filter]
    refine List.filter_congr fun k _ => ?_
    simp only [List.mem_cons, not_or, ne_eq, Bool.decide_and]
  rw [hfilter, List.length_filter_lt_length_iff_exists]
  refine ⟨key, ?_, by simp⟩
  simpa [keysOff, hkey] using mem_keys_of_find? h

end SortedMap

/-! ## Segments -/

namespace Environment

variable {env : Environment} {E : EvalError → Prop}

/-- The errors that the rules of a flag can end in. -/
def RuleError (env : Environment) : EvalError → Prop
  | .segmentCycle _ => True
  | .store e => ∃ key, env.store.segmentFailures key = some e
  | e => e.IsOfData

theorem ruleError_of_isOfData {e : EvalError} (h : e.IsOfData) : env.RuleError e := by
  cases e <;> first | exact h | exact h.elim

/-- Entering a segment keeps chains and records if deciding it does, with its key on the chain. -/
theorem enterSegment_keeps (hE : ∀ e, env.RuleError e → E e) {decide : Segment → Eval Bool}
    {C D : List String} {rs : List PrerequisiteRecord} {key : String}
    (hdecide : key ∉ D → ∀ s, env.store.data.segment? key = some s →
      Eval.Keeps (Scope.At C (key :: D) rs) (decide s) (fun _ => True) E) :
    Eval.Keeps (Scope.At C D rs) (env.enterSegment decide key) (fun _ => True) E := by
  refine Eval.Keeps.bind_read (fun s hs => hs.2.1) ?_
  split
  · exact Eval.Keeps.fail (hE _ trivial)
  · next hkey =>
    have hkey : key ∉ D := by simpa using hkey
    refine Eval.Keeps.findSegment (Scope.visible_at C D rs) (fun e he => hE _ ⟨key, he⟩) ?_
    intro s hs
    refine Eval.Keeps.around ?_ ?_ (hdecide hkey s hs)
    · rintro t ⟨hC, hD, hrs⟩
      exact ⟨hC, hD ▸ Eval.enter_of_not_mem (hD ▸ hkey), hrs⟩
    · rintro t ⟨hC, hD, hrs⟩
      exact ⟨hC, hD ▸ Eval.leave_cons_self hkey, hrs⟩

/-- **Deciding a segment leaves the chains and the records as they were**, and fails only with what
rules fail with.  It goes too deep only if there are more segments off the chain than levels. -/
theorem inSegment_keeps (hE : ∀ e, env.RuleError e → E e) {C : List String}
    {rs : List PrerequisiteRecord} {depth : Nat} {D : List String} (key : String)
    (hdepth : E .tooDeep ∨ (env.store.data.segments.keysOff D).length ≤ depth) :
    Eval.Keeps (Scope.At C D rs) (env.inSegment depth key) (fun _ => True) E := by
  induction depth generalizing D key with
  | zero =>
    refine enterSegment_keeps hE fun hkey s hs => ?_
    rcases hdepth with hdepth | hdepth
    · exact Eval.Keeps.fail hdepth
    · have := SortedMap.length_keysOff_cons_lt (Dataset.find?_of_segment? hs) hkey
      omega
  | succ depth ih =>
    refine enterSegment_keeps hE fun hkey s hs => ?_
    have hlt := SortedMap.length_keysOff_cons_lt (Dataset.find?_of_segment? hs) hkey
    have hdepth' := hdepth.imp_right fun h => Nat.le_of_lt_succ (Nat.lt_of_lt_of_le hlt h)
    exact Eval.Keeps.segment (Scope.visible_at C (key :: D) rs)
      (fun e he => hE e (ruleError_of_isOfData he)) fun other _ => ih other hdepth'

/-! ## Rules -/

/-- The segments that a flag names are decided with levels enough. -/
theorem inSegment_segmentDepth_keeps (hE : ∀ e, env.RuleError e → E e) {C : List String}
    {rs : List PrerequisiteRecord} (key : String) :
    Eval.Keeps (Scope.At C [] rs) (env.inSegment env.segmentDepth key) (fun _ => True) E :=
  inSegment_keeps hE key (Or.inr (SortedMap.length_keysOff_le []))

/-- Targets, rules and fallthrough leave the chains and the records as they were. -/
theorem decide_keeps (hE : ∀ e, env.RuleError e → E e) {C : List String}
    {rs : List PrerequisiteRecord} (f : Flag) :
    Eval.Keeps (Scope.At C [] rs) (f.decide env (env.inSegment env.segmentDepth))
      (fun _ => True) E :=
  Eval.Keeps.decide (Scope.visible_at C [] rs) (fun e he => hE e (ruleError_of_isOfData he))
    fun key _ => inSegment_segmentDepth_keeps hE key

end Environment

end FeatureFlags
