import FeatureFlags.Proofs.Segment.Mode

/-!
# Steps that agree wherever they are taken

If the parts of an evaluation change places, then each is taken in another scope than before, and
the scopes soon have nothing in common: not the chains, nor the memberships that have been asked
for.  All that is left is that the memberships are those which the provider gives.  Two steps agree
if they give the same from any two such scopes, whenever both of them give something.

Chains need no care then, since they can do nothing but make a step fail.  Memberships need none
either, since it makes no difference to an answer whether the provider has been asked before.

A search that gives true has found a step that gives true, and one that gives false has seen all of
them give false.  So two searches through the same steps, in whatever order, cannot give different
answers without two steps that do not agree.  This is where steps are taken from unrelated scopes:
one of them was reached by the first search and the other by the second.

## What is here

* `Eval.KeepsHonest`: steps that lead from honest scopes to honest scopes.
* `Eval.Agrees`: steps that agree, which is a congruence.
* `Eval.Agrees.any`, `Eval.Agrees.all`: searches in any order.
-/

set_option autoImplicit false

namespace FeatureFlags

/-! ## Honest scopes -/

theorem Scope.Honest.consult {env : Environment} {s : Scope} (hs : s.Honest env) (key : String)
    (reference : Option String) : (env.consult key reference s).2.Honest env :=
  (Eval.SameAnew.consult key reference s s ⟨rfl, rfl, rfl, rfl, rfl, hs⟩).2.honest

namespace Eval

variable {α β γ : Type} {env : Environment}

/-- The step leads from honest scopes to honest scopes. -/
def KeepsHonest (env : Environment) (x : Eval α) : Prop := ∀ s, s.Honest env → (x s).2.Honest env

namespace KeepsHonest

theorem bind {x : Eval α} {f : α → Eval β} (hx : KeepsHonest env x)
    (hf : ∀ a, KeepsHonest env (f a)) : KeepsHonest env (x >>= f) := by
  intro s hs
  have ht := hx s hs
  rcases hxs : x s with ⟨result, t⟩
  rw [hxs] at ht
  cases result with
  | error e => rwa [bind_of_error hxs]
  | ok a =>
    rw [bind_of_ok hxs]
    exact hf a t ht

theorem any {p : β → Eval Bool} {l : List β} (hp : ∀ x ∈ l, KeepsHonest env (p x)) :
    KeepsHonest env (Eval.any p l) := by
  induction l with
  | nil => exact fun _ hs => hs
  | cons x l ih =>
    obtain ⟨hx, hrest⟩ := List.forall_mem_cons.1 hp
    refine bind hx fun b => ?_
    cases b with
    | true => exact fun _ hs => hs
    | false => exact ih hrest

end KeepsHonest

/-- Warnings do not make a scope less honest. -/
theorem keepsHonest_of_warnings {x : Eval α}
    (h : ∀ s, ∃ warnings, (x s).2 = { s with warnings }) : KeepsHonest env x := by
  intro s hs
  obtain ⟨warnings, hsame⟩ := h s
  rw [hsame]
  exact hs

/-! ## Searches from honest scopes -/

/-- All items pass in honest scopes, and lead to one. -/
theorem Passes.gives {p : β → Eval Bool} {l : List β} {s t : Scope} (h : Passes p l s t)
    (hp : ∀ x ∈ l, KeepsHonest env (p x)) (hs : s.Honest env) :
    t.Honest env ∧ ∀ x ∈ l, ∃ u, u.Honest env ∧ (p x u).1 = .ok false := by
  induction h with
  | nil s => exact ⟨hs, nofun⟩
  | @cons x rest s t u hx _ ih =>
    obtain ⟨hkeeps, hrest⟩ := List.forall_mem_cons.1 hp
    have ht := hkeeps s hs
    rw [hx] at ht
    obtain ⟨hu, hpasses⟩ := ih hrest ht
    exact ⟨hu, List.forall_mem_cons.2 ⟨⟨s, hs, congrArg Prod.fst hx⟩, hpasses⟩⟩

section

variable {p : β → Eval Bool} {l : List β} {s : Scope} (hp : ∀ x ∈ l, KeepsHonest env (p x))
  (hs : s.Honest env)

include hp hs

theorem forall_of_any (h : (Eval.any p l s).1 = .ok false) :
    ∀ x ∈ l, ∃ u, u.Honest env ∧ (p x u).1 = .ok false :=
  ((any_eq_false_iff.1 (Prod.ext h rfl)).gives hp hs).2

theorem exists_of_any (h : (Eval.any p l s).1 = .ok true) :
    ∃ x ∈ l, ∃ u, u.Honest env ∧ (p x u).1 = .ok true := by
  obtain ⟨before, x, after, u, rfl, hpasses, hx⟩ := (any_eq_iff (by nofun)).1 (Prod.ext h rfl)
  have hbefore : ∀ y ∈ before, KeepsHonest env (p y) := fun y hy => hp y (by simp [hy])
  exact ⟨x, by simp, u, (hpasses.gives hbefore hs).1, congrArg Prod.fst hx⟩

end

/-! ## Steps that agree -/

/-- The steps agree: from any honest scopes they give the same, unless one of them fails. -/
structure Agrees (env : Environment) ⦃α : Type⦄ (x y : Eval α) : Prop where
  /-- The first leads to honest scopes. -/
  left : KeepsHonest env x
  /-- The second leads to honest scopes. -/
  right : KeepsHonest env y
  /-- They give the same. -/
  same : ∀ s t, s.Honest env → t.Honest env → ∀ a b, (x s).1 = .ok a → (y t).1 = .ok b → a = b

namespace Agrees

theorem symm {x y : Eval α} (h : Agrees env x y) : Agrees env y x where
  left := h.right
  right := h.left
  same s t hs ht a b hy hx := (h.same t s ht hs b a hx hy).symm

theorem pure (a : α) : Agrees env (Pure.pure a) (Pure.pure a) where
  left _ hs := hs
  right _ hs := hs
  same _ _ _ _ _ _ hb hc := (Except.ok.inj hb).symm.trans (Except.ok.inj hc)

theorem fail (e : EvalError) : Agrees env (Eval.fail e : Eval α) (Eval.fail e) where
  left _ hs := hs
  right _ hs := hs
  same _ _ _ _ _ _ h := nomatch h

theorem update {f g : Scope → Scope} (hf : ∀ s, s.Honest env → (f s).Honest env)
    (hg : ∀ s, s.Honest env → (g s).Honest env) : Agrees env (Eval.update f) (Eval.update g) where
  left := hf
  right := hg
  same _ _ _ _ _ _ _ _ := rfl

theorem bind {x y : Eval α} {f g : α → Eval β} (hxy : Agrees env x y)
    (hfg : ∀ a, Agrees env (f a) (g a)) : Agrees env (x >>= f) (y >>= g) where
  left := hxy.left.bind fun a => (hfg a).left
  right := hxy.right.bind fun a => (hfg a).right
  same s t hs ht c d hc hd := by
    obtain ⟨a, s', hxs, hfs⟩ := bind_eq_ok.1 (Prod.ext hc rfl)
    obtain ⟨b, t', hyt, hgt⟩ := bind_eq_ok.1 (Prod.ext hd rfl)
    obtain rfl := hxy.same s t hs ht a b (congrArg Prod.fst hxs) (congrArg Prod.fst hyt)
    have hs' := hxy.left s hs
    have ht' := hxy.right t ht
    rw [hxs] at hs'
    rw [hyt] at ht'
    exact (hfg a).same s' t' hs' ht' c d (congrArg Prod.fst hfs) (congrArg Prod.fst hgt)

/-- What the scopes hold besides the memberships may differ and change. -/
theorem around {before after : Scope → Scope} {x y : Eval α}
    (hbefore : ∀ s, s.Honest env → (before s).Honest env)
    (hafter : ∀ s, s.Honest env → (after s).Honest env) (h : Agrees env x y) :
    Agrees env (Eval.around before after x) (Eval.around before after y) where
  left s hs := hafter _ (h.left _ (hbefore s hs))
  right s hs := hafter _ (h.right _ (hbefore s hs))
  same s t hs ht := h.same _ _ (hbefore s hs) (hbefore t ht)

/-- A key on a chain makes a step fail, so the chains need not be the same. -/
theorem unlessOn {f : Scope → List String} {key : String} {e : EvalError} {x y : Eval α}
    (h : Agrees env x y) :
    Agrees env (Eval.read f >>= fun chain => if chain.contains key then Eval.fail e else x)
      (Eval.read f >>= fun chain => if chain.contains key then Eval.fail e else y) := by
  have hunless (x : Eval α) (s : Scope) :
      (Eval.read f >>= fun chain => if chain.contains key then Eval.fail e else x) s =
        if (f s).contains key then (.error e, s) else x s := by
    change (if (f s).contains key then Eval.fail e else x) s = _
    split <;> rfl
  refine ⟨fun s hs => ?_, fun s hs => ?_, fun s t hs ht a b hx hy => ?_⟩
  · rw [hunless]
    split
    · exact hs
    · exact h.left s hs
  · rw [hunless]
    split
    · exact hs
    · exact h.right s hs
  · rw [hunless] at hx hy
    split at hx
    · cases hx
    · split at hy
      · cases hy
      · exact h.same s t hs ht a b hx hy

theorem consult (key : String) (reference : Option String) :
    Agrees env (env.consult key reference) (env.consult key reference) where
  left _ hs := hs.consult key reference
  right _ hs := hs.consult key reference
  same s t hs ht a b ha hb := by
    cases reference with
    | none =>
      cases ha
      cases hb
      rfl
    | some reference =>
      rw [Environment.consult_of_honest hs] at ha
      rw [Environment.consult_of_honest ht] at hb
      exact Except.ok.inj (ha.symm.trans hb)

theorem congruence (env : Environment) : Congruence env env (fun _ => True) (Agrees env) where
  context := rfl
  pure := pure
  bind := bind
  fail _ := fail _
  warn _ := update (fun _ hs => hs) fun _ hs => hs
  note _ := update (fun _ hs => hs) fun _ hs => hs
  consult := consult

/-! ### Searches -/

section

variable {p : β → Eval Bool} {q : γ → Eval Bool} {l : List β} {m : List γ}
  (hleft : ∀ x ∈ l, ∃ y ∈ m, Agrees env (p x) (q y))
  (hright : ∀ y ∈ m, ∃ x ∈ l, Agrees env (p x) (q y))

include hleft hright

/-- A search cannot find what the other has seen fail. -/
theorem not_any {s t : Scope} (hs : s.Honest env) (ht : t.Honest env)
    (htrue : (Eval.any p l s).1 = .ok true) : (Eval.any q m t).1 ≠ .ok false := by
  intro hfalse
  have hp : ∀ x ∈ l, KeepsHonest env (p x) := fun x hx =>
    (hleft x hx).elim fun _ hy => hy.2.left
  have hq : ∀ y ∈ m, KeepsHonest env (q y) := fun y hy =>
    (hright y hy).elim fun _ hx => hx.2.right
  obtain ⟨x, hx, u, hu, hxu⟩ := exists_of_any hp hs htrue
  obtain ⟨y, hy, hxy⟩ := hleft x hx
  obtain ⟨v, hv, hyv⟩ := forall_of_any hq ht hfalse y hy
  cases hxy.same u v hu hv true false hxu hyv

/-- **Searches have no order.**  Two searches agree if every step of one has one of the other that
it agrees with. -/
theorem any : Agrees env (Eval.any p l) (Eval.any q m) where
  left := KeepsHonest.any fun x hx => (hleft x hx).elim fun _ hy => hy.2.left
  right := KeepsHonest.any fun y hy => (hright y hy).elim fun _ hx => hx.2.right
  same s t hs ht a b ha hb := by
    cases a with
    | true =>
      cases b with
      | true => rfl
      | false => exact absurd hb (not_any hleft hright hs ht ha)
    | false =>
      cases b with
      | true =>
        have hleft' : ∀ y ∈ m, ∃ x ∈ l, Agrees env (q y) (p x) := fun y hy =>
          (hright y hy).imp fun _ hx => ⟨hx.1, hx.2.symm⟩
        have hright' : ∀ x ∈ l, ∃ y ∈ m, Agrees env (q y) (p x) := fun x hx =>
          (hleft x hx).imp fun _ hy => ⟨hy.1, hy.2.symm⟩
        exact absurd ha (not_any hleft' hright' ht hs hb)
      | false => rfl

end

end Agrees

/-- The step that gives the opposite. -/
def not (x : Eval Bool) : Eval Bool := x >>= fun b => Pure.pure !b

/-- All items hold unless a search finds one that does not. -/
theorem all_eq_not_any (p : β → Eval Bool) (l : List β) :
    Eval.all p l = not (Eval.any (fun x => not (p x)) l) := by
  induction l with
  | nil => rfl
  | cons x l ih =>
    funext s
    simp only [Eval.all, Eval.any, not, Bind.bind, Eval.bind] at ih ⊢
    rcases p x s with ⟨result, t⟩
    cases result with
    | error e => rfl
    | ok b =>
      cases b with
      | true => exact congrFun ih t
      | false => rfl

theorem Agrees.not {x y : Eval Bool} (h : Agrees env x y) : Agrees env x.not y.not :=
  h.bind fun _ => .pure _

theorem Agrees.all {p : β → Eval Bool} {q : γ → Eval Bool} {l : List β} {m : List γ}
    (hleft : ∀ x ∈ l, ∃ y ∈ m, Agrees env (p x) (q y))
    (hright : ∀ y ∈ m, ∃ x ∈ l, Agrees env (p x) (q y)) :
    Agrees env (Eval.all p l) (Eval.all q m) := by
  rw [all_eq_not_any, all_eq_not_any]
  refine (Agrees.any (fun x hx => ?_) fun y hy => ?_).not
  · obtain ⟨y, hy, hxy⟩ := hleft x hx
    exact ⟨y, hy, hxy.not⟩
  · obtain ⟨x, hx, hxy⟩ := hright y hy
    exact ⟨x, hx, hxy.not⟩

end Eval

end FeatureFlags
