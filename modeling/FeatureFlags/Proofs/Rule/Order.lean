import FeatureFlags.Proofs.Step.Agreement
import FeatureFlags.Proofs.Step.Lockstep
import FeatureFlags.Proofs.Step.Parallel

/-!
# The order inside of rules

The clauses of a rule are looked at one after the other until one does not hold, and the segments of
a clause until one has the context.  So the order decides which segments are visited at all, and in
what scope.  If they are rearranged, an evaluation may run into a cycle that it did not see before,
or fail to look at a segment where it did.  It may fail where it did not.  But it will not decide
otherwise.

A clause that compares values has nothing to do with this.  It looks at its values alone, so
rearranging them can neither make an evaluation fail nor keep it from failing; all that changes is
what is remarked.

## What is here

* `SameClauses`, `SameComparisons`: rules with their clauses and values in another order.
* `Eval.SameButRemarks`: steps that differ in nothing but remarks.
* `Environment.Rearranged.evaluateFlag_agrees`, `evaluateFlag_sameButRemarks`: evaluations.
* `evaluate_rearranged`: the theorem.
-/

set_option autoImplicit false

namespace FeatureFlags

/-! ## Lists of clauses -/

/-- Both lists have the same clauses, in whatever order and however often, with their values in
whatever order and however often. -/
structure SameClauses (clauses clauses' : List Clause) : Prop where
  /-- Each of the first is rearranged among the second. -/
  left : ∀ clause ∈ clauses, ∃ clause' ∈ clauses', clause.Rearranged clause'
  /-- Each of the second is one of the first, rearranged. -/
  right : ∀ clause' ∈ clauses', ∃ clause ∈ clauses, clause.Rearranged clause'

theorem SameClauses.refl (clauses : List Clause) : SameClauses clauses clauses :=
  ⟨fun clause h => ⟨clause, h, .refl clause⟩, fun clause h => ⟨clause, h, .refl clause⟩⟩

/-- Both lists have the same clauses in the same order, with the values that are compared in
whatever order and however often.  Segments are named in the same order. -/
def SameComparisons : List Clause → List Clause → Prop :=
  List.Forall₂ fun clause clause' =>
    clause.Rearranged clause' ∧ (clause.op = .segmentMatch → clause'.values = clause.values)

namespace Clause.Rearranged

variable {clause clause' : Clause} {env env' : Environment} {in₁ in₂ : String → Eval Bool}

/-- A clause that compares gives the same in all scopes, or fails with the same in all of them. -/
theorem fst_evaluate_eq (h : clause.Rearranged clause') (hop : clause.op ≠ .segmentMatch)
    (hcontext : env.context.Rearranged env'.context) (s t : Scope) :
    (clause.evaluate env in₁ s).1 = (clause'.evaluate env' in₂ t).1 := by
  have hop' : clause'.op ≠ .segmentMatch := h.op_eq ▸ hop
  rw [fst_evaluate hop, fst_evaluate hop', h.holds_eq hcontext]

/-- Clauses agree if what decides segments does. -/
theorem agrees (h : clause.Rearranged clause') (hcontext : env.context.Rearranged env'.context)
    (hin : ∀ key, Eval.Agrees env (in₁ key) (in₂ key)) :
    Eval.Agrees env (clause.evaluate env in₁) (clause'.evaluate env' in₂) := by
  by_cases hop : clause.op = .segmentMatch
  · have hop' : clause'.op = .segmentMatch := h.op_eq.trans hop
    rw [evaluate, evaluate, if_pos hop, if_pos hop', h.result_eq]
    refine Eval.Agrees.bind (Eval.Agrees.any (fun key hkey => ?_) fun key hkey => ?_)
      fun _ => .pure _
    · exact ⟨key, (h.segmentKeys key).1 hkey, hin key⟩
    · exact ⟨key, (h.segmentKeys key).2 hkey, hin key⟩
  · have hop' : clause'.op ≠ .segmentMatch := h.op_eq ▸ hop
    refine ⟨Eval.keepsHonest_of_warnings (exists_snd_evaluate env in₁ hop),
      Eval.keepsHonest_of_warnings (exists_snd_evaluate env' in₂ hop'), fun s t _ _ a b ha hb => ?_⟩
    rw [h.fst_evaluate_eq hop hcontext s t] at ha
    exact Except.ok.inj (ha.symm.trans hb)

end Clause.Rearranged

/-- Rules with rearranged clauses agree. -/
theorem SameClauses.agrees {clauses clauses' : List Clause} (h : SameClauses clauses clauses')
    {env env' : Environment} {in₁ in₂ : String → Eval Bool}
    (hcontext : env.context.Rearranged env'.context)
    (hin : ∀ key, Eval.Agrees env (in₁ key) (in₂ key)) :
    Eval.Agrees env (allHold env in₁ clauses) (allHold env' in₂ clauses') := by
  refine Eval.Agrees.all (fun clause hclause => ?_) fun clause' hclause' => ?_
  · obtain ⟨clause', hmem, h⟩ := h.left clause hclause
    exact ⟨clause', hmem, h.agrees hcontext hin⟩
  · obtain ⟨clause, hmem, h⟩ := h.right clause' hclause'
    exact ⟨clause, hmem, h.agrees hcontext hin⟩

/-! ## Steps that differ in remarks -/

/-- Two scopes differ in nothing but records and warnings. -/
def Scope.SameButRemarks (s t : Scope) : Prop :=
  ∃ records warnings, t = { s with records, warnings }

/-- Changes that do the same to all but records and warnings. -/
theorem Scope.SameButRemarks.map {f g : Scope → Scope}
    (hfg : ∀ s records warnings, (f s).SameButRemarks (g { s with records, warnings }))
    (s t : Scope) (h : s.SameButRemarks t) : (f s).SameButRemarks (g t) := by
  obtain ⟨records, warnings, rfl⟩ := h
  exact hfg s records warnings

namespace Eval

variable {α : Type} {env env' : Environment} {in₁ in₂ : String → Eval Bool}

/-- Both steps end alike, from scopes that differ in records and warnings. -/
def SameButRemarks ⦃α : Type⦄ (x y : Eval α) : Prop := Lockstep Scope.SameButRemarks x y

namespace SameButRemarks

theorem update {f g : Scope → Scope} (hfg : ∀ s records warnings,
    (f s).SameButRemarks (g { s with records, warnings })) :
    SameButRemarks (Eval.update f) (Eval.update g) := Lockstep.update (.map hfg)

/-- A step in a scope that is changed in something else. -/
theorem around {before after : Scope → Scope} {x y : Eval α}
    (hbefore : ∀ s records warnings,
      (before s).SameButRemarks (before { s with records, warnings }))
    (hafter : ∀ s records warnings, (after s).SameButRemarks (after { s with records, warnings }))
    (h : SameButRemarks x y) :
    SameButRemarks (Eval.around before after x) (Eval.around before after y) :=
  Lockstep.around (.map hbefore) (.map hafter) h

/-- Records and warnings are never looked at. -/
theorem congruence (env : Environment) : Congruence env env (fun _ => True) SameButRemarks where
  context := rfl
  pure := Lockstep.pure
  bind := Lockstep.bind
  fail _ := Lockstep.fail _
  warn _ := update fun _ _ _ => ⟨_, _, rfl⟩
  note _ := update fun _ _ _ => ⟨_, _, rfl⟩
  consult := by
    have hkeep (s t : Scope) (h : s.SameButRemarks t) (memberships) :
        { s with memberships }.SameButRemarks { t with memberships } := by
      obtain ⟨_, _, rfl⟩ := h
      exact ⟨_, _, rfl⟩
    exact Lockstep.consult rfl (fun _ _ ⟨_, _, h⟩ => by rw [h])
      (fun _ => update fun _ _ _ => ⟨_, _, rfl⟩) (fun _ => update fun _ _ _ => ⟨_, _, rfl⟩) hkeep

/-- A clause that compares remarks on other things, and one that names segments is the same. -/
theorem clause {clause clause' : Clause} (hcontext : env.context.Rearranged env'.context)
    (hin : ∀ key, SameButRemarks (in₁ key) (in₂ key)) (h : clause.Rearranged clause')
    (hsegments : clause.op = .segmentMatch → clause'.values = clause.values) :
    SameButRemarks (clause.evaluate env in₁) (clause'.evaluate env' in₂) := by
  by_cases hop : clause.op = .segmentMatch
  · have hop' : clause'.op = .segmentMatch := h.op_eq.trans hop
    have hkeys : clause'.segmentKeys = clause.segmentKeys := by
      rw [Clause.segmentKeys, Clause.segmentKeys, hsegments hop]
    rw [Clause.evaluate, Clause.evaluate, if_pos hop, if_pos hop', h.result_eq, hkeys]
    exact Lockstep.bind ((congruence env).any fun key _ => hin key) fun _ => Lockstep.pure _
  · have hop' : clause'.op ≠ .segmentMatch := h.op_eq ▸ hop
    rintro s _ ⟨records, warnings, rfl⟩
    refine ⟨h.fst_evaluate_eq hop hcontext _ _, ?_⟩
    obtain ⟨warnings₁, hs⟩ := Clause.exists_snd_evaluate env in₁ hop s
    obtain ⟨warnings₂, ht⟩ := Clause.exists_snd_evaluate env' in₂ hop' { s with records, warnings }
    rw [hs, ht]
    exact ⟨_, _, rfl⟩

theorem allHold {clauses clauses' : List Clause} (hcontext : env.context.Rearranged env'.context)
    (hin : ∀ key, SameButRemarks (in₁ key) (in₂ key)) (h : SameComparisons clauses clauses') :
    SameButRemarks (FeatureFlags.allHold env in₁ clauses)
      (FeatureFlags.allHold env' in₂ clauses') :=
  (congruence env).all_forall₂ (List.Forall₂.imp (fun _ _ hclause =>
    clause hcontext hin hclause.1 hclause.2) h)

end SameButRemarks

end Eval

/-! ## Evaluations -/

namespace Environment.Rearranged

variable {env env' : Environment} {f f' : Flag}

/-- Evaluations of rearranged rules agree. -/
theorem evaluateFlag_agrees (h : env.Rearranged SameClauses env') (hf : f.Rearranged SameClauses f')
    (depth : Nat) : Eval.Agrees env (env.evaluateFlag depth f) (env'.evaluateFlag depth f') := by
  have hparallel : Eval.Parallel env env' SameClauses (Eval.Agrees env) :=
    { Eval.Agrees.congruence env with
      unlessFlag := fun _ => Eval.Agrees.unlessOn
      unlessSegment := fun _ => Eval.Agrees.unlessOn
      withFlag := fun _ => Eval.Agrees.around (fun _ hs => hs) fun _ hs => hs
      withSegment := fun _ => Eval.Agrees.around (fun _ hs => hs) fun _ hs => hs
      record := fun _ _ _ _ => Eval.Agrees.update (fun _ hs => hs) fun _ hs => hs
      allHold := fun hin hclauses => hclauses.agrees h.context hin }
  exact hparallel.evaluateFlag h depth hf

/-- Evaluations of rules with rearranged comparisons end alike. -/
theorem evaluateFlag_sameButRemarks (h : env.Rearranged SameComparisons env')
    (hf : f.Rearranged SameComparisons f') (depth : Nat) :
    Eval.SameButRemarks (env.evaluateFlag depth f) (env'.evaluateFlag depth f') := by
  have hparallel : Eval.Parallel env env' SameComparisons Eval.SameButRemarks :=
    { Eval.SameButRemarks.congruence env with
      unlessFlag := fun _ => Eval.Lockstep.unlessOn fun _ _ ⟨_, _, h⟩ => by rw [h]
      unlessSegment := fun _ => Eval.Lockstep.unlessOn fun _ _ ⟨_, _, h⟩ => by rw [h]
      withFlag := fun _ =>
        Eval.SameButRemarks.around (fun _ _ _ => ⟨_, _, rfl⟩) fun _ _ _ => ⟨_, _, rfl⟩
      withSegment := fun _ =>
        Eval.SameButRemarks.around (fun _ _ _ => ⟨_, _, rfl⟩) fun _ _ _ => ⟨_, _, rfl⟩
      record := fun _ _ _ _ => Eval.SameButRemarks.update fun _ _ _ => ⟨_, _, rfl⟩
      allHold := Eval.SameButRemarks.allHold h.context }
  exact hparallel.evaluateFlag h depth hf

end Environment.Rearranged

/-- **The order inside of rules does not matter to a decision.**  Let the clauses of the rules of
flags and segments, the values of these clauses, and the elements of lists among the attributes of
the context be put in another order, and let some of them be repeated.  Neither the chains nor the
memberships known need be the same at any time, but if neither evaluation runs into an error, both
serve the same value with the same index, and for the same reason.

If it is only values that are compared, and lists of the context, then the evaluations run into the
same errors besides, or into none; for each clause that compares gives the same in all scopes,
whatever decides segments, or fails with the same in all of them. -/
theorem evaluate_rearranged (env env' : Environment) (f f' : Flag) :
    (env.Rearranged SameClauses env' → f.Rearranged SameClauses f' →
      (∀ e, (env.run f).1 ≠ .error e) → (∀ e, (env'.run f').1 ≠ .error e) →
      let detail := (evaluate env f).detail
      let detail' := (evaluate env' f').detail
      detail.value = detail'.value ∧ detail.index = detail'.index ∧
        detail.reason = detail'.reason) ∧
    (env.Rearranged SameComparisons env' → f.Rearranged SameComparisons f' →
      (env.run f).1 = (env'.run f').1) ∧
    (env.context.Rearranged env'.context → ∀ clause clause' : Clause, clause.Rearranged clause' →
      clause.op ≠ .segmentMatch → ∀ inSegment inSegment' s t,
        (clause.evaluate env inSegment s).1 = (clause'.evaluate env' inSegment' t).1) := by
  refine ⟨fun henv hf hfine hfine' => ?_, fun henv hf => ?_,
    fun hcontext clause clause' h hop _ _ s t => h.fst_evaluate_eq hop hcontext s t⟩
  · have hagrees : ∀ detail detail', (env.run f).1 = .ok detail → (env'.run f').1 = .ok detail' →
        detail = detail' := by
      intro detail detail' hresult hresult'
      rw [Environment.run] at hresult
      rw [Environment.run, henv.flagDepth_eq] at hresult'
      exact (henv.evaluateFlag_agrees hf env.flagDepth).same .empty .empty (Scope.honest_empty env)
        (Scope.honest_empty env) detail detail' hresult hresult'
    rw [evaluate, evaluate]
    rcases hrun : env.run f with ⟨result, s⟩
    rcases hrun' : env'.run f' with ⟨result', s'⟩
    rw [hrun] at hfine hagrees
    rw [hrun'] at hfine' hagrees
    cases result with
    | error e => exact absurd rfl (hfine e)
    | ok detail =>
      cases result' with
      | error e => exact absurd rfl (hfine' e)
      | ok detail' =>
        obtain rfl := hagrees detail detail' rfl rfl
        exact ⟨rfl, rfl, rfl⟩
  · rw [Environment.run, Environment.run, henv.flagDepth_eq]
    exact (henv.evaluateFlag_sameButRemarks hf env.flagDepth .empty .empty ⟨_, _, rfl⟩).1

/-- A clause for the tags of a user. -/
def Clause.tagged (tags : List String) : Clause where
  contextKind := .user
  reference := .ofName "tags"
  negate := false
  op := .isIn
  values := tags.map .string

/-- A flag with one rule for these clauses, and nothing to serve to anyone else. -/
def Flag.club (clauses : List Clause) : Flag :=
  { Flag.requiring "club" ["core"] with
    rules := [⟨"members", clauses, .fixed 0, false⟩]
    fallthrough := .malformed .null }

/-- A store where one segment has the user and another names some, and a user with tags. -/
def Environment.club (named tags : List String) : Environment where
  store := .ofDataset (.ofItems [.requiring "core" []]
    [.naming "staff" ["u"] [], .naming "beta" [] named])
  provider := none
  context := .single ⟨.user, "u", none, false, none, .ofList [("tags", .array (tags.map .string))]⟩

theorem Clause.rearranged_naming {keys keys' : List String} (h : keys.Perm keys') :
    (naming keys).Rearranged (naming keys') := ⟨rfl, .of_perm (h.map _)⟩

theorem Environment.rearranged_club {named named' tags repeated : List String}
    (hnamed : named.Perm named') (htags : repeated ⊆ tags) :
    (club named tags).Rearranged SameClauses (club named' (tags ++ repeated)) where
  context := by
    refine .single ⟨rfl, fun name => ?_⟩
    change Option.Rel _ ((SortedMap.empty.insert "tags" _).find? name)
      ((SortedMap.empty.insert "tags" _).find? name)
    rw [SortedMap.find?_insert, SortedMap.find?_insert, List.map_append]
    split
    · exact .some (.array (.append_of_subset (List.map_subset _ htags)))
    · exact .none
  provider := rfl
  store := by
    refine ⟨rfl, fun key => ?_, fun key => ?_⟩
    · have hrefl : ∀ found : Option Flag, Option.Rel (Flag.Rearranged SameClauses) found found := by
        rintro (_ | f)
        · exact .none
        · exact .some (.refl .refl f)
      exact hrefl _
    · change Option.Rel _ (((SortedMap.empty.insert "staff" _).insert "beta" _).find? key)
        (((SortedMap.empty.insert "staff" _).insert "beta" _).find? key)
      rw [SortedMap.find?_insert, SortedMap.find?_insert, SortedMap.find?_insert,
        SortedMap.find?_insert]
      split
      · have hclause := Clause.rearranged_naming hnamed
        refine .some ⟨rfl, .cons ⟨rfl, ?_, ?_⟩ .nil⟩
        · exact List.forall_mem_singleton.2 ⟨_, List.mem_singleton_self _, hclause⟩
        · exact List.forall_mem_singleton.2 ⟨_, List.mem_singleton_self _, hclause⟩
      · split
        · exact .some (.refl .refl _)
        · exact .none

/-- One evaluation asks whether the user is of staff first, and the other whether the user is in
beta. -/
theorem evaluate_rearranged_club :
    let env := Environment.club ["gone", "staff"] ["x", "y"]
    let env' := Environment.club ["staff", "gone"] ["x", "y", "x"]
    let f := Flag.club [.tagged ["z", "y"], .naming ["staff", "beta"]]
    let f' := Flag.club [.naming ["beta", "staff"], .tagged ["y", "z"]]
    (env.run f).1.isOk = true ∧ (env'.run f').1.isOk = true ∧
      (evaluate env f).detail.reason = .ruleMatch 0 "members" false ∧
      (evaluate env' f').detail.reason = .ruleMatch 0 "members" false ∧
      (evaluate env' f').detail.index = some 0 := by
  intro env env' f f'
  have hnaming := Clause.rearranged_naming (List.Perm.swap "beta" "staff" [])
  have htagged : (Clause.tagged ["z", "y"]).Rearranged (.tagged ["y", "z"]) :=
    ⟨rfl, .of_perm ((List.Perm.swap "y" "z" []).map _)⟩
  have hclauses : SameClauses [.tagged ["z", "y"], .naming ["staff", "beta"]]
      [.naming ["beta", "staff"], .tagged ["y", "z"]] := by
    constructor
    · exact List.forall_mem_cons.2 ⟨⟨_, by simp, htagged⟩,
        List.forall_mem_singleton.2 ⟨_, by simp, hnaming⟩⟩
    · exact List.forall_mem_cons.2 ⟨⟨_, by simp, hnaming⟩,
        List.forall_mem_singleton.2 ⟨_, by simp, htagged⟩⟩
  have henv : env.Rearranged SameClauses env' :=
    Environment.rearranged_club (List.Perm.swap "staff" "gone" []) (by simp)
  have hf : f.Rearranged SameClauses f' := ⟨rfl, .cons ⟨rfl, hclauses⟩ .nil⟩
  have hfine : (env.run f).1.isOk = true := by decide +kernel
  have hfine' : (env'.run f').1.isOk = true := by decide +kernel
  obtain ⟨-, hindex, hreason⟩ := (evaluate_rearranged env env' f f').1 henv hf
    (fun e h => by simp [h, Except.isOk, Except.toBool] at hfine)
    (fun e h => by simp [h, Except.isOk, Except.toBool] at hfine')
  have hserved : (evaluate env f).detail.reason = .ruleMatch 0 "members" false ∧
      (evaluate env f).detail.index = some 0 := by decide +kernel
  exact ⟨hfine, hfine', hserved.1, hreason ▸ hserved.1, hindex ▸ hserved.2⟩

-- an answer that comes first keeps the segment behind it from being visited, where it would fail
example :
    let env : Environment :=
      ⟨.ofDataset (.ofItems [] [.naming "staff" ["u"] [], .naming "loop" [] ["loop"]]), none,
        .ofUserKey "u"⟩
    (env.run ((Flag.requiring "page" []).forSegments ["staff", "loop"])).1.isOk = true ∧
      (env.run ((Flag.requiring "page" []).forSegments ["loop", "staff"])).1.isOk = false := by
  decide +kernel

end FeatureFlags
