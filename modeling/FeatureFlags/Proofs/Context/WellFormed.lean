import FeatureFlags.Proofs.Context.Forms

/-!
# Well-formed contexts

A context comes from a builder, from other contexts put together or taken apart, or from JSON, and
each of these feeds the others.  However it was made, a context is well formed: it is one entity
whose key and attributes are as builders leave them, or at least two such entities in the strict
order of their kinds.  So its kinds are sorted, looking up one of them finds the entity that has it,
and there is one key for each.

The part of an entity that a kind stands for is carried by the type `Kind`.  What has to be shown is
that nothing else slips in: a builder never files an attribute under a reserved name or files null,
no reader lets one through, and putting contexts together never nests them or repeats a kind.

## What is here

* `ContextBuilder.Obtainable`, `Context.Obtainable`: what can be made.
* `Entity.WellFormed`, `Context.WellFormed`: the form that everything has.
* `Context.Obtainable.wellFormed`, `Context.Obtainable.representation`: it has.
-/

set_option autoImplicit false

namespace FeatureFlags

/-! ## What can be made -/

/-- The builders that any sequence of calls leads to.  A value that is refused changes nothing. -/
inductive ContextBuilder.Obtainable : ContextBuilder → Prop
  | ofKey (key : String) : Obtainable (ofKey key)
  | kind {b : ContextBuilder} (kind : String) : Obtainable b → Obtainable { b with kind }
  | key {b : ContextBuilder} (key : String) : Obtainable b → Obtainable { b with key }
  | name {b : ContextBuilder} (name : String) : Obtainable b →
      Obtainable { b with name := some name }
  | anonymous {b : ContextBuilder} (anonymous : Bool) : Obtainable b →
      Obtainable { b with anonymous }
  | secondary {b : ContextBuilder} (secondary : String) : Obtainable b →
      Obtainable { b with secondary := some secondary }
  | set {b : ContextBuilder} (name : String) (value : AttributeValue) : Obtainable b →
      Obtainable (b.set name value)

/-- The contexts that can be made: built, put together from others, selected as one entity of
another, or read. -/
inductive Context.Obtainable : Context → Prop
  | build {b : ContextBuilder} {c : Context} : b.Obtainable → b.build = .ok c → Obtainable c
  | combine {cs : List Context} {c : Context} : (∀ d ∈ cs, Obtainable d) →
      Context.combine cs = .ok c → Obtainable c
  | select {c : Context} {kind : Kind} {e : Entity} : Obtainable c → c.entity? kind = some e →
      Obtainable (.single e)
  | ofJson {j : Json} {c : Context} : Context.ofJson j = .ok c → Obtainable c

/-! ## Entities -/

/-- An entity as builders leave it.  Only users may have an empty key. -/
structure Entity.WellFormed (e : Entity) : Prop where
  kind : Kind.Valid e.kind.name
  key : e.key ≠ "" ∨ e.kind = .user
  attributes : ∀ name value, e.attributes.find? name = some value →
    value ≠ .null ∧ name ∉ ["", "kind", "key", "name", "anonymous", "_meta"]

/-- What every sequence of calls keeps. -/
structure ContextBuilder.WellFormed (b : ContextBuilder) : Prop where
  attributes : b.attributes.HoldsCustom
  key : b.allowsEmptyKey = false

namespace ContextBuilder

variable {b : ContextBuilder}

theorem WellFormed.set (h : b.WellFormed) (name : String) (value : AttributeValue) :
    (b.set name value).WellFormed := by
  rw [ContextBuilder.set]
  cases hset : b.set? name value with
  | none => exact h
  | some b' =>
    obtain ⟨hkey, hattributes | ⟨hne, hcustom, rfl⟩⟩ := set?_eq_some hset
    · exact ⟨hattributes ▸ h.attributes, hkey ▸ h.key⟩
    · exact ⟨h.attributes.assign hne hcustom, h.key⟩

theorem Obtainable.wellFormed (h : b.Obtainable) : b.WellFormed := by
  induction h with
  | ofKey key => exact ⟨SortedMap.holdsCustom_empty, rfl⟩
  | kind kind _ ih => exact ⟨ih.attributes, ih.key⟩
  | key key _ ih => exact ⟨ih.attributes, ih.key⟩
  | name name _ ih => exact ⟨ih.attributes, ih.key⟩
  | anonymous anonymous _ ih => exact ⟨ih.attributes, ih.key⟩
  | secondary secondary _ ih => exact ⟨ih.attributes, ih.key⟩
  | set name value _ ih => exact ih.set name value

end ContextBuilder

namespace Entity

variable {b : ContextBuilder} {e : Entity} {kind : Kind} {j : Json}

theorem wellFormed_of_holdsCustom (hkey : e.key ≠ "" ∨ e.kind = .user)
    (h : e.attributes.HoldsCustom) : e.WellFormed := by
  refine ⟨e.kind.valid, hkey, fun name value hvalue => ?_⟩
  obtain ⟨hempty, hreserved, hnull⟩ := h name value hvalue
  simp only [ContextBuilder.isReserved, Bool.or_eq_false_iff, beq_eq_false_iff_ne] at hreserved
  exact ⟨hnull, by simp [hempty, hreserved]⟩

theorem wellFormed_of_entity_eq_ok (hb : b.WellFormed) (h : b.entity = .ok e) : e.WellFormed := by
  obtain ⟨kind, -, hkey, rfl⟩ := ContextBuilder.entity_eq_ok_iff.1 h
  refine wellFormed_of_holdsCustom (Or.inl (hkey.resolve_right fun hallowed => ?_)) hb.attributes
  exact Bool.false_ne_true (hb.key.symm.trans hallowed)

theorem wellFormed_of_ofBody_eq_ok (h : ofBody kind j = .ok e) : e.WellFormed := by
  obtain ⟨ms, -, hbody, hkind, rfl⟩ := ofBody_eq_ok_iff.1 h
  refine wellFormed_of_holdsCustom (Or.inl ?_) (SortedMap.holdsCustom_empty.assignAll ?_)
  · obtain ⟨key, hkey, hne⟩ := Json.exists_key_of_isBody hbody
    rw [ofMembers, hkey]
    exact hne
  · intro a ha
    obtain ⟨m, hm, rfl⟩ := List.mem_map.1 ha
    refine ⟨fun hempty => ?_, isReserved_of_mem_bodyExtras hkind m hm⟩
    simp only [Json.isBody, Bool.and_eq_true, Option.isNone_iff_eq_none] at hbody
    exact SortedMap.lookup_eq_none_iff.1 hbody.2 m (List.mem_of_mem_filter hm) hempty

theorem wellFormed_of_ofUser_eq_ok (h : ofUser j = .ok e) : e.WellFormed := by
  obtain ⟨ms, -, -, rfl⟩ := ofUser_eq_ok_iff.1 h
  refine wellFormed_of_holdsCustom (Or.inr rfl) (SortedMap.holdsCustom_empty.assignAll ?_)
  intro a ha
  obtain ⟨hmem, hname⟩ := List.mem_filter.1 ha
  have hbuiltin := not_mem_of_mem_userExtras a hmem
  simp only [List.mem_cons, List.not_mem_nil, or_false, not_or] at hbuiltin
  simp only [Bool.and_eq_true, decide_eq_true_eq] at hname
  simp [ContextBuilder.isReserved, hbuiltin, hname]

end Entity

/-! ## Contexts -/

namespace Context

variable {c : Context}

/-- One well-formed entity, or at least two of them in the strict order of their kinds. -/
def WellFormed : Context → Prop
  | single e => e.WellFormed
  | multi members =>
    2 ≤ members.length ∧ (∀ e ∈ members, e.WellFormed) ∧ members.Pairwise Entity.KindOrder

theorem wellFormed_iff : c.WellFormed ↔ c.Ordered ∧ ∀ e ∈ c.entities, e.WellFormed := by
  cases c with
  | single e => simp [WellFormed, Ordered, entities]
  | multi members =>
    simp only [WellFormed, Ordered, entities, and_assoc]
    exact and_congr_right fun _ => and_comm

theorem wellFormed_of_ofJson_eq_ok {j : Json} (h : ofJson j = .ok c) : c.WellFormed := by
  obtain ⟨ms, rfl⟩ : ∃ ms, j = .object ms := by
    obtain ⟨ms, hms, -⟩ := Decode.bind_eq_ok_iff.1 h
    exact ⟨ms, Json.members?_eq_some_iff.1 ((Decode.reads_members _ _).1 hms)⟩
  cases hkind : SortedMap.lookup "kind" ms with
  | none =>
    obtain ⟨e, he, rfl⟩ := (ofJson_user_iff hkind).1 h
    exact Entity.wellFormed_of_ofUser_eq_ok he
  | some j =>
    by_cases hmulti : j = .string multiKindName
    · subst hmulti
      obtain ⟨es, hes, hordered, hperm⟩ := (ofJson_multi_iff hkind).1 h
      refine wellFormed_iff.2 ⟨hordered, fun e he => ?_⟩
      obtain ⟨m, hm⟩ := exists_ofBody_of_mem hes e (hperm.mem_iff.1 he)
      exact Entity.wellFormed_of_ofBody_eq_ok hm
    · obtain ⟨e, -, he, rfl⟩ := (ofJson_single_iff hkind hmulti).1 h
      exact Entity.wellFormed_of_ofBody_eq_ok he

/-- Every context that can be made is well formed. -/
theorem Obtainable.wellFormed (h : c.Obtainable) : c.WellFormed := by
  induction h with
  | build hb hc =>
    obtain ⟨e, he, rfl⟩ := Decode.map_eq_ok_iff.1 hc
    exact Entity.wellFormed_of_entity_eq_ok hb.wellFormed he
  | combine _ hc ih =>
    obtain ⟨hordered, hperm⟩ := combine_eq_ok_iff.1 hc
    refine wellFormed_iff.2 ⟨hordered, fun e he => ?_⟩
    obtain ⟨d, hd, hed⟩ := List.mem_flatMap.1 (hperm.mem_iff.1 he)
    exact (wellFormed_iff.1 (ih d hd)).2 e hed
  | select _ he ih => exact (wellFormed_iff.1 ih).2 _ (List.mem_of_find?_eq_some he)
  | ofJson hc => exact wellFormed_of_ofJson_eq_ok hc

theorem Obtainable.ordered (h : c.Obtainable) : c.Ordered := (wellFormed_iff.1 h.wellFormed).1

/-- **The form of a context.**  However it was made, a context is one entity as builders leave it,
or several in the strict order of their kinds with nothing of its own; its kinds are sorted, looking
up a kind finds the entity that has it, and there is one key for each kind. -/
theorem Obtainable.representation (h : c.Obtainable) :
    c.WellFormed ∧
      (c.isMulti = true → c.kindName = multiKindName ∧ c.key = "" ∧ c.name = none ∧
        c.anonymous = false ∧ ∀ r : Reference, r.isKind = false → c.value? r = none) ∧
      c.kinds.Pairwise (fun k l => k.name < l.name) ∧
      (∀ kind, (c.entity? kind).isSome = true ↔ kind ∈ c.kinds) ∧
      (∀ kind e, c.entity? kind = some e → e.kind = kind ∧ e ∈ c.entities) ∧
      c.keys.entries = c.entities.map fun e => (e.kind.name, e.key) := by
  refine ⟨h.wellFormed, ?_, List.pairwise_map.2 h.ordered.pairwise,
    fun kind => h.ordered.isSome_entity?_iff,
    fun kind e he => (h.ordered.entity?_eq_some_iff.1 he).symm, h.ordered.entries_keys⟩
  cases c with
  | single e => exact fun hmulti => absurd hmulti Bool.false_ne_true
  | multi members => exact fun _ => ⟨rfl, rfl, rfl, rfl, fun r hr => by rw [value?, hr]; rfl⟩

/-- A device without a name. -/
def device : Entity := ⟨⟨"device", by decide⟩, "d", none, true, none, .empty⟩

/-- A user with an attribute. -/
def subscriber : Entity :=
  ⟨.user, "u", none, false, none, SortedMap.empty.insert "plan" (.string "pro")⟩

/-- The two of them together, in the order of their kinds. -/
def deviceAndSubscriber : Context := .multi [device, subscriber]

theorem obtainable_device : (single device).Obtainable :=
  .build (.anonymous true (.kind "device" (.ofKey "d"))) rfl

theorem obtainable_subscriber : (single subscriber).Obtainable :=
  .build (.set "plan" (.string "pro") (.ofKey "u")) rfl

theorem obtainable_deviceAndSubscriber : deviceAndSubscriber.Obtainable := by
  have hordered : deviceAndSubscriber.Ordered :=
    ⟨by decide, List.pairwise_pair.2 (show "device" < "user" by decide)⟩
  have hcombine : combine [single subscriber, single device] = .ok deviceAndSubscriber :=
    combine_eq_ok_iff.2 ⟨hordered, List.Perm.swap _ _ _⟩
  refine .combine (fun d hd => ?_) hcombine
  rcases List.mem_pair.1 hd with rfl | rfl
  · exact obtainable_subscriber
  · exact obtainable_device

theorem representation_deviceAndSubscriber :
    deviceAndSubscriber.WellFormed ∧ deviceAndSubscriber.key = "" ∧
      deviceAndSubscriber.keys.entries = [("device", "d"), ("user", "u")] := by
  obtain ⟨hform, hmulti, -, -, -, hkeys⟩ := obtainable_deviceAndSubscriber.representation
  exact ⟨hform, (hmulti rfl).2.1, hkeys⟩

end Context

end FeatureFlags
