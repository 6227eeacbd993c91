import FeatureFlags.Proofs.Step.Congruence

/-!
# Steps in lockstep

Many comparisons of two evaluations are of one form.  There is a relation of scopes which does not
see what the two evaluations do differently, and both are led by it: from related scopes they end
alike, in related scopes.  What a step ends with is the same then, so the next steps are the same
too, and all that is particular to a comparison is how the scopes are related and which changes they
stand.

## What is here

* `Eval.Lockstep`: steps that end alike and keep a relation of scopes.
* `Lockstep.bind`, `update`, `read`, `around`, `unlessOn`, `consult`: what keeps in step.
-/

set_option autoImplicit false

namespace FeatureFlags

namespace Eval

variable {α β : Type} {P : Scope → Scope → Prop}

/-- From related scopes both steps end alike, in related scopes. -/
def Lockstep (P : Scope → Scope → Prop) ⦃α : Type⦄ (x y : Eval α) : Prop :=
  ∀ s t, P s t → (x s).1 = (y t).1 ∧ P (x s).2 (y t).2

namespace Lockstep

theorem pure (a : α) : Lockstep P (Pure.pure a : Eval α) (Pure.pure a) := fun _ _ h => ⟨rfl, h⟩

theorem fail (e : EvalError) : Lockstep P (Eval.fail e : Eval α) (Eval.fail e) :=
  fun _ _ h => ⟨rfl, h⟩

theorem bind {x y : Eval α} {f g : α → Eval β} (hxy : Lockstep P x y)
    (hfg : ∀ a, Lockstep P (f a) (g a)) : Lockstep P (x >>= f) (y >>= g) := by
  intro s t h
  obtain ⟨hresult, hscope⟩ := hxy s t h
  rcases hxs : x s with ⟨result, s'⟩
  rcases hyt : y t with ⟨result', t'⟩
  rw [hxs, hyt] at hresult hscope
  obtain rfl : result = result' := hresult
  cases result with
  | error e =>
    rw [bind_of_error hxs, bind_of_error hyt]
    exact ⟨rfl, hscope⟩
  | ok a =>
    rw [bind_of_ok hxs, bind_of_ok hyt]
    exact hfg a s' t' hscope

theorem update {f g : Scope → Scope} (hfg : ∀ s t, P s t → P (f s) (g t)) :
    Lockstep P (Eval.update f) (Eval.update g) := fun s t h => ⟨rfl, hfg s t h⟩

/-- A look at something that is the same in related scopes. -/
theorem read {f : Scope → α} (hf : ∀ s t, P s t → f s = f t) :
    Lockstep P (Eval.read f) (Eval.read f) := fun s t h => ⟨congrArg Except.ok (hf s t h), h⟩

theorem around {before after : Scope → Scope} {x y : Eval α}
    (hbefore : ∀ s t, P s t → P (before s) (before t))
    (hafter : ∀ s t, P s t → P (after s) (after t)) (h : Lockstep P x y) :
    Lockstep P (Eval.around before after x) (Eval.around before after y) := by
  intro s t hst
  obtain ⟨hresult, hscope⟩ := h _ _ (hbefore s t hst)
  exact ⟨hresult, hafter _ _ hscope⟩

/-- What is done only if a key is not on a chain. -/
theorem unlessOn {f : Scope → List String} {key : String} {e : EvalError}
    (hf : ∀ s t, P s t → f s = f t) {x y : Eval α} (h : Lockstep P x y) :
    Lockstep P (Eval.read f >>= fun chain => if chain.contains key then Eval.fail e else x)
      (Eval.read f >>= fun chain => if chain.contains key then Eval.fail e else y) := by
  refine bind (read hf) fun chain => ?_
  split
  · exact fail e
  · exact h

/-- A consultation, if the same memberships are known and everything that it does keeps in step. -/
theorem consult {env env' : Environment} (hprovider : env.provider = env'.provider)
    (hmemberships : ∀ s t, P s t → s.memberships = t.memberships)
    (hnote : ∀ e, Lockstep P (Eval.note e) (Eval.note e))
    (hobserve : ∀ status, Lockstep P (Environment.observe status) (Environment.observe status))
    (hkeep : ∀ s t, P s t → ∀ memberships, P { s with memberships } { t with memberships })
    (key : String) (reference : Option String) :
    Lockstep P (env.consult key reference) (env'.consult key reference) := by
  rw [Environment.consult.eq_def, Environment.consult.eq_def, ← hprovider]
  refine bind (hnote _) fun _ => ?_
  split
  · exact bind (hobserve _) fun _ => pure _
  · exact bind (hobserve _) fun _ => pure _
  · refine bind (bind (read fun s t h => by rw [hmemberships s t h]) fun known => ?_)
      fun _ => pure _
    cases known with
    | some known => exact pure known
    | none =>
      refine bind (hnote _) fun _ => bind (hobserve _) fun _ =>
        bind (update fun s t h => ?_) fun _ => pure _
      rw [hmemberships s t h]
      exact hkeep s t h _

end Lockstep

end Eval

end FeatureFlags
