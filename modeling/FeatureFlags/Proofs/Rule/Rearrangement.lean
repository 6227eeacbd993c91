import FeatureFlags.Proofs.Context.Indifference
import FeatureFlags.Proofs.Decision.Merging
import FeatureFlags.Proofs.Rule.Negation
import Mathlib.Data.List.Forall2

/-!
# Rearranged values

The values of a clause are looked through until a comparison is met, and so are the elements of a
list that it finds in a context.  Whether there is such a comparison is a matter of which values
there are and not of their order, nor of how often each of them occurs.  So a clause gives the same
if its values are rearranged, and for contexts whose lists are.

What is remarked on the way is another matter, since it depends on how far the search gets.  And the
values of a clause that names segments are not compared but decided one after the other, in scopes
that they leave to each other; nothing is said about these here.

Everything else that looks at a context cannot even tell that there are lists in it.  A list has no
members, and no text to put an entity into a bucket by.

## What is here

* `SameMembers`: lists that are rearranged.
* `AttributeValue.Rearranged`, `Entity.Rearranged`, `Context.Rearranged`: contexts with such lists.
* `Clause.Rearranged.holds_eq`: clauses that compare give the same.
* `Context.Rearranged.select_eq`, `includes_eq`, `verdict_eq`, `targetVariation?_eq`: and the rest.
-/

set_option autoImplicit false

namespace FeatureFlags

/-! ## Lists -/

/-- Two lists have the same members, in whatever order and however often. -/
def SameMembers {α : Type} (l m : List α) : Prop := ∀ x, x ∈ l ↔ x ∈ m

namespace SameMembers

variable {α β : Type} {l m : List α}

theorem refl (l : List α) : SameMembers l l := fun _ => Iff.rfl

/-- Permuting a list leaves its members. -/
theorem of_perm (h : l.Perm m) : SameMembers l m := fun _ => h.mem_iff

/-- So does repeating some of them. -/
theorem append_of_subset (h : m ⊆ l) : SameMembers l (l ++ m) := by
  intro x
  simpa using fun hx => h hx

theorem any_eq (h : SameMembers l m) (p : α → Bool) : l.any p = m.any p := by
  rw [Bool.eq_iff_iff, List.any_eq_true, List.any_eq_true]
  exact exists_congr fun x => and_congr_left' (h x)

theorem filterMap (h : SameMembers l m) (f : α → Option β) :
    SameMembers (l.filterMap f) (m.filterMap f) := by
  intro y
  rw [List.mem_filterMap, List.mem_filterMap]
  exact exists_congr fun x => and_congr_left' (h x)

end SameMembers

/-! ## Values and entities -/

/-- The values are the same, or they are lists with the same members. -/
inductive AttributeValue.Rearranged : AttributeValue → AttributeValue → Prop where
  | same (v : AttributeValue) : Rearranged v v
  | array {items items' : List AttributeValue} (h : SameMembers items items') :
      Rearranged (.array items) (.array items')

namespace AttributeValue.Rearranged

variable {v w : AttributeValue}

theorem rel_self (found : Option AttributeValue) : Option.Rel Rearranged found found := by
  cases found with
  | none => exact .none
  | some v => exact .some (.same v)

/-- Lists have no members, so nothing is found inside of them. -/
theorem descend?_rel (h : v.Rearranged w) (names : List String) :
    Option.Rel Rearranged (v.descend? names) (w.descend? names) := by
  cases h with
  | same v => exact rel_self _
  | array h =>
    cases names with
    | nil => exact .some (.array h)
    | cons name rest => exact .none

theorem bucketText?_eq (h : v.Rearranged w) : v.bucketText? = w.bucketText? := by
  cases h <;> rfl

end AttributeValue.Rearranged

/-- The entities differ only in the order of the lists among their own attributes. -/
structure Entity.Rearranged (e e' : Entity) : Prop where
  /-- They agree in everything else. -/
  same : e' = { e with attributes := e'.attributes }
  /-- Under each name both have a value that is rearranged, or neither has one. -/
  attributes : ∀ name,
    Option.Rel AttributeValue.Rearranged (e.attributes.find? name) (e'.attributes.find? name)

namespace Entity.Rearranged

variable {e e' : Entity}

theorem attribute?_rel (h : e.Rearranged e') (name : String) :
    Option.Rel AttributeValue.Rearranged (e.attribute? name) (e'.attribute? name) := by
  obtain ⟨attributes, rfl⟩ : ∃ attributes, e' = { e with attributes } := ⟨_, h.same⟩
  rw [attribute?.eq_def, attribute?.eq_def]
  split
  · exact .some (.same _)
  · exact .some (.same _)
  · exact AttributeValue.Rearranged.rel_self _
  · exact .some (.same _)
  · exact h.attributes name

theorem value?_rel (h : e.Rearranged e') (r : Reference) :
    Option.Rel AttributeValue.Rearranged (e.value? r) (e'.value? r) := by
  rw [value?, value?]
  split
  · exact .none
  · next name rest _ =>
    have hrel := h.attribute?_rel name
    generalize e.attribute? name = found, e'.attribute? name = found' at hrel ⊢
    cases hrel with
    | none => exact .none
    | some hv => exact hv.descend?_rel rest

theorem bucketOfValue_eq (h : e.Rearranged e') (salt : String) (r : Reference)
    (secondary : Option String) :
    bucketOfValue salt (e.value? r) secondary = bucketOfValue salt (e'.value? r) secondary := by
  have hrel := h.value?_rel r
  generalize e.value? r = found, e'.value? r = found' at hrel ⊢
  cases hrel with
  | none => rfl
  | some hv =>
    rw [bucketOfValue, bucketOfValue, bucketText?, bucketText?, Option.bind_some, Option.bind_some,
      hv.bucketText?_eq]

theorem bucket_eq (h : e.Rearranged e') (reference : Option Reference) (salt : String)
    (isExperiment : Bool) :
    e.bucket reference salt isExperiment = e'.bucket reference salt isExperiment := by
  have hkey : e'.key = e.key := by rw [h.same]
  have hsecondary : e'.secondary = e.secondary := by rw [h.same]
  rw [bucket.eq_def, bucket.eq_def, hkey, hsecondary]
  split
  · rfl
  · rfl
  · rw [h.bucketOfValue_eq]

end Entity.Rearranged

/-! ## Contexts -/

/-- The contexts differ only in the order of lists in their entities. -/
inductive Context.Rearranged : Context → Context → Prop where
  | single {e e' : Entity} (h : e.Rearranged e') : Rearranged (.single e) (.single e')
  | multi {members members' : List Entity} (h : List.Forall₂ Entity.Rearranged members members') :
      Rearranged (.multi members) (.multi members')

namespace Context.Rearranged

variable {c d : Context} (h : c.Rearranged d)

include h

theorem entities : List.Forall₂ Entity.Rearranged c.entities d.entities := by
  cases h with
  | single h => exact .cons h .nil
  | multi h => exact h

theorem kinds_eq : c.kinds = d.kinds := by
  have hentities := h.entities
  rw [kinds, kinds]
  generalize c.entities = members, d.entities = members' at hentities
  induction hentities with
  | nil => rfl
  | cons he _ ih => rw [List.map_cons, List.map_cons, ih, he.same]

theorem entity?_rel (kind : Kind) :
    Option.Rel Entity.Rearranged (c.entity? kind) (d.entity? kind) := by
  have hentities := h.entities
  rw [entity?, entity?]
  generalize c.entities = members, d.entities = members' at hentities
  induction hentities with
  | nil => exact .none
  | @cons e e' _ _ he _ ih =>
    have hkind : e'.kind = e.kind := by rw [he.same]
    rw [List.find?_cons, List.find?_cons, hkind]
    split
    · exact .some he
    · exact ih

theorem key_eq (kind : Kind) :
    (c.entity? kind).map Entity.key = (d.entity? kind).map Entity.key := by
  have hrel := h.entity?_rel kind
  generalize c.entity? kind = found, d.entity? kind = found' at hrel ⊢
  cases hrel with
  | none => rfl
  | some he => rw [Option.map_some, Option.map_some, he.same]

theorem bucket_eq (kind : Kind) (reference : Option Reference) (salt : String)
    (isExperiment : Bool) :
    c.bucket kind reference salt isExperiment = d.bucket kind reference salt isExperiment := by
  have hrel := h.entity?_rel kind
  rw [bucket, bucket]
  generalize c.entity? kind = found, d.entity? kind = found' at hrel ⊢
  cases hrel with
  | none => rfl
  | some he => simp only [he.bucket_eq]

/-! ### Whatever looks at a context -/

theorem select_eq (o : Outcome) (key salt : String) :
    o.select key salt c = o.select key salt d := by
  cases o with
  | fixed n => rfl
  | malformed data => rfl
  | rollout r => rw [Outcome.select, Outcome.select, h.bucket_eq]

theorem includes_eq (r : SegmentRule) (key salt : String) :
    r.includes key salt c = r.includes key salt d := by
  rw [SegmentRule.includes, SegmentRule.includes, h.bucket_eq]

theorem targetVariation?_eq (f : Flag) : f.targetVariation? c = f.targetVariation? d :=
  Flag.targetVariation?_congr fun t _ => Target.lists_congr (h.key_eq t.contextKind)

theorem listing?_eq (S : Segment) : S.listing? c = S.listing? d := by
  have hcontains (t : SegmentTarget) : t.contains c = t.contains d := by
    have hkey (c : Context) : t.contains c = ((c.entity? t.contextKind).map Entity.key).any
        fun key => t.values.contains key := by
      rw [SegmentTarget.contains, Option.any_map]
    rw [hkey, hkey, h.key_eq]
  have hlists (userKeys : List String) (targets : List SegmentTarget) :
      listsContext userKeys targets c = listsContext userKeys targets d := by
    simp only [listsContext, hcontains]
  rw [Segment.listing?, Segment.listing?, hlists, hlists]

/-- Nothing else is needed for what is known before the rules are looked at. -/
theorem verdict_eq {env env' : Environment} (hcontext : env.context = c)
    (hcontext' : env'.context = d) (hprovider : env'.provider = env.provider) (S : Segment) :
    S.verdict env = S.verdict env' := by
  have hconsult : env.consult = env'.consult := by
    funext key reference
    rw [Environment.consult.eq_def, Environment.consult.eq_def, hprovider]
  rw [Segment.verdict, Segment.verdict, Segment.storeVerdict_eq, Segment.storeVerdict_eq, hcontext,
    hcontext', h.key_eq, h.listing?_eq, hconsult]

end Context.Rearranged

/-! ## Clauses -/

/-- The clauses differ only in the order of their values. -/
structure Clause.Rearranged (clause clause' : Clause) : Prop where
  /-- They agree in everything else. -/
  same : clause' = { clause with values := clause'.values }
  /-- They have the same values. -/
  values : SameMembers clause.values clause'.values

namespace Clause

variable {clause clause' : Clause} {c d : Context}

/-- Rearranged contexts give the same values to compare, in some order. -/
theorem subjects_rel (h : c.Rearranged d) (clause : Clause) :
    Option.Rel SameMembers (clause.subjects c) (clause.subjects d) := by
  have hrel : Option.Rel AttributeValue.Rearranged (clause.value? c) (clause.value? d) := by
    have hentity := h.entity?_rel clause.contextKind
    rw [value?, value?]
    generalize c.entity? clause.contextKind = found, d.entity? clause.contextKind = found'
      at hentity ⊢
    cases hentity with
    | none => exact .none
    | some he => exact he.value?_rel clause.reference
  cases hkind : clause.reference.isKind with
  | true =>
    rw [subjects_of_isKind hkind, subjects_of_isKind hkind, h.kinds_eq]
    exact .some (.refl _)
  | false =>
    generalize hc : clause.value? c = found, hd : clause.value? d = found' at hrel
    cases hrel with
    | none =>
      rw [subjects_of_absent hkind (Or.inl hc), subjects_of_absent hkind (Or.inl hd)]
      exact .none
    | @some v w hvw =>
      cases hvw with
      | array hitems =>
        rw [subjects_of_value hkind hc (by simp), subjects_of_value hkind hd (by simp)]
        exact .some hitems
      | same v =>
        by_cases hnull : v = .null
        · subst hnull
          rw [subjects_of_absent hkind (Or.inr hc), subjects_of_absent hkind (Or.inr hd)]
          exact .none
        · rw [subjects_of_value hkind hc hnull, subjects_of_value hkind hd hnull]
          exact .some (.refl _)

namespace Rearranged

theorem refl (clause : Clause) : clause.Rearranged clause := ⟨rfl, .refl _⟩

theorem negate_eq (h : clause.Rearranged clause') : clause'.negate = clause.negate := by rw [h.same]

theorem op_eq (h : clause.Rearranged clause') : clause'.op = clause.op := by rw [h.same]

theorem result_eq (h : clause.Rearranged clause') : clause'.result = clause.result := by
  funext matched
  rw [result, result, h.negate_eq]

theorem segmentKeys (h : clause.Rearranged clause') :
    SameMembers clause.segmentKeys clause'.segmentKeys := h.values.filterMap _

/-- Some comparison is met, or none, whatever the order. -/
theorem anyMatch_eq (h : clause.Rearranged clause') {subjects subjects' : List AttributeValue}
    (hsubjects : SameMembers subjects subjects') :
    clause.anyMatch subjects = clause'.anyMatch subjects' := by
  rw [anyMatch, anyMatch, hsubjects.any_eq, h.op_eq]
  congr 1
  funext v
  exact h.values.any_eq _

/-- **Comparisons have no order.**  A clause that compares gives or fails with the same. -/
theorem holds_eq (h : clause.Rearranged clause') (hcontext : c.Rearranged d) :
    clause.holds c = clause'.holds d := by
  have hrel := subjects_rel hcontext clause
  have hreference : clause'.reference = clause.reference := by rw [h.same]
  have hsubjects : clause'.subjects d = clause.subjects d := by
    rw [h.same]
    rfl
  rw [holds, holds, hreference, hsubjects, h.result_eq]
  generalize clause.subjects c = found, clause.subjects d = found' at hrel ⊢
  cases hrel with
  | none => rfl
  | some hitems => simp only [h.anyMatch_eq hitems]

end Rearranged

end Clause

end FeatureFlags
