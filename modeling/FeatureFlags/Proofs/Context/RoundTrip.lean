import FeatureFlags.Proofs.Attribute.Finite
import FeatureFlags.Proofs.Context.Grammar
import FeatureFlags.Proofs.Context.WellFormed

/-!
# Contexts as JSON and back

A context is written with the fields of its entities beside their attributes, and read with the
attributes told from the fields by their names alone.  Nothing is mistaken on the way because no
attribute of a well-formed entity has the name of a field, and no kind is called `kind`.  What can
be lost is what a body cannot say: an empty key is refused, and an infinite number is written as
null, which stands for no attribute.

`Entity.reread` is what an entity is read back as when its key is not empty.  Written contexts list
everything under different names in the order of names, so reading them is described by
lookups, one for each field.

## What is here

* `Entity.reread`, `Context.reread`: what is read back.
* `Context.WellFormed.ofJson_toJson_iff`: reading what has been written.
* `Context.Obtainable.roundTrip`: when a context is read back as an equal one, it is the same.
-/

set_option autoImplicit false

namespace FeatureFlags

namespace Entity

/-- The fields of the body that is written for an entity. -/
def fieldMembers (e : Entity) : List (String × Json) :=
  [("key", .string e.key)] ++
    (e.name.map fun name => ("name", Json.string name)).toList ++
    (if e.anonymous then [("anonymous", .bool true)] else []) ++
    (e.secondary.map fun s => ("_meta", Json.object [("secondary", .string s)])).toList

/-- The members of the body that is written for an entity, in the order of their names. -/
def written (e : Entity) : List (String × Json) := (SortedMap.ofList e.body).entries

/-- What the body that is written for an entity is read as. -/
def reread (e : Entity) : Entity := ofMembers e.kind e.written

/-- Whether all numbers in the attributes of an entity are finite. -/
def Finite (e : Entity) : Prop := ∀ name v, e.attributes.find? name = some v → v.isFinite = true

variable {e : Entity}

/-! ## What is written -/

theorem body_eq : e.body = e.fieldMembers ++ e.attributes.entries.map fun a => (a.1, a.2.toJson) :=
  rfl

theorem lookup_fieldMembers :
    SortedMap.lookup "key" e.fieldMembers = some (.string e.key) ∧
      SortedMap.lookup "name" e.fieldMembers = e.name.map .string ∧
      SortedMap.lookup "anonymous" e.fieldMembers =
        (if e.anonymous then some (.bool true) else none) ∧
      SortedMap.lookup "_meta" e.fieldMembers =
        e.secondary.map fun s => .object [("secondary", .string s)] := by
  obtain ⟨kind, key, name, anonymous, secondary, attributes⟩ := e
  cases name <;> cases anonymous <;> cases secondary <;> simp [fieldMembers, SortedMap.lookup]

theorem sublist_fieldMembers : (e.fieldMembers.map Prod.fst).Sublist bodyFields := by
  obtain ⟨kind, key, name, anonymous, secondary, attributes⟩ := e
  cases name <;> cases anonymous <;> cases secondary <;> simp [fieldMembers, bodyFields]

namespace WellFormed

variable (h : e.WellFormed)

include h

/-- No attribute has the name of a field. -/
theorem find?_field {name : String} (hname : name ∈ "kind" :: "" :: bodyFields) :
    e.attributes.find? name = none := by
  cases hvalue : e.attributes.find? name with
  | none => rfl
  | some v =>
    refine absurd ?_ (h.attributes name v hvalue).2
    simp only [bodyFields, List.mem_cons, List.not_mem_nil, or_false] at hname ⊢
    grind

theorem nodup_body : (e.body.map Prod.fst).Nodup := by
  rw [body_eq, List.map_append, List.map_map]
  refine List.nodup_append.2 ⟨?_, e.attributes.nodup_keys, ?_⟩
  · exact (by decide : bodyFields.Nodup).sublist sublist_fieldMembers
  · rintro name hname _ hkey rfl
    obtain ⟨a, ha, rfl⟩ := List.mem_map.1 hkey
    have hfind := SortedMap.mem_entries_iff.1 ha
    have hfield : a.1 ∈ bodyFields := sublist_fieldMembers.subset hname
    rw [h.find?_field (List.mem_cons_of_mem _ (List.mem_cons_of_mem _ hfield))] at hfind
    cases hfind

theorem lookup_written (name : String) :
    SortedMap.lookup name e.written =
      (SortedMap.lookup name e.fieldMembers).or
        ((e.attributes.find? name).map AttributeValue.toJson) := by
  rw [written, ← SortedMap.find?, SortedMap.find?_ofList h.nodup_body, body_eq,
    SortedMap.lookup_append, SortedMap.lookup_map]
  rfl

theorem lookup_written_field {name : String} (hname : name ∈ "kind" :: "" :: bodyFields) :
    SortedMap.lookup name e.written = SortedMap.lookup name e.fieldMembers := by
  rw [h.lookup_written, h.find?_field hname, Option.map_none, Option.or_none]

theorem lookup_written_attribute {name : String} (hname : name ∉ bodyFields) :
    SortedMap.lookup name e.written = (e.attributes.find? name).map AttributeValue.toJson := by
  have hnone : SortedMap.lookup name e.fieldMembers = none :=
    SortedMap.lookup_eq_none_iff.2 fun m hm heq =>
      hname (heq ▸ sublist_fieldMembers.subset (List.mem_map_of_mem hm))
  rw [h.lookup_written, hnone, Option.none_or]

/-- Each field of the body is found under its name. -/
theorem lookup_written_fields :
    SortedMap.lookup "key" e.written = some (.string e.key) ∧
      SortedMap.lookup "name" e.written = e.name.map .string ∧
      SortedMap.lookup "anonymous" e.written =
        (if e.anonymous then some (.bool true) else none) ∧
      SortedMap.lookup "_meta" e.written =
        e.secondary.map fun s => .object [("secondary", .string s)] := by
  have hfields : ∀ name ∈ bodyFields,
      SortedMap.lookup name e.written = SortedMap.lookup name e.fieldMembers := fun name hname =>
    h.lookup_written_field (List.mem_cons_of_mem _ (List.mem_cons_of_mem _ hname))
  rw [hfields "key" (by decide), hfields "name" (by decide), hfields "anonymous" (by decide),
    hfields "_meta" (by decide)]
  exact lookup_fieldMembers

/-! ## What is read back -/

theorem isBody_written : Json.isBody e.written = true ↔ e.key ≠ "" := by
  obtain ⟨hkey, hname, hanonymous, hmeta⟩ := h.lookup_written_fields
  have hempty : SortedMap.lookup "" e.written = none := by
    rw [h.lookup_written_attribute (by decide), h.find?_field (by decide), Option.map_none]
  rw [Json.isBody, hkey, hname, hanonymous, hmeta, hempty]
  cases e.name <;> cases e.anonymous <;> cases e.secondary <;>
    simp [Json.text?, Json.isTextOrNull, Json.isText, Json.isTruth, Json.truth?, Json.isMeta,
      Json.metaMembers?, SortedMap.lookup]

theorem find?_reread (name : String) :
    e.reread.attributes.find? name =
      (e.attributes.find? name).bind fun v => (AttributeValue.ofJson v.toJson).nonNull? := by
  have hnodup : (e.written.map Prod.fst).Nodup := (SortedMap.ofList e.body).nodup_keys
  rw [reread, find?_ofMembers hnodup]
  split
  · next hname => rw [h.find?_field (List.mem_cons_of_mem _ (List.mem_cons_of_mem _ hname))]; rfl
  · next hname => rw [h.lookup_written_attribute hname, Option.bind_map]; rfl

/-- Only attributes can be lost. -/
theorem reread_eq : e.reread = { e with attributes := e.reread.attributes } := by
  obtain ⟨hkey, hname, hanonymous, hmeta⟩ := h.lookup_written_fields
  simp only [reread, ofMembers, hkey, hname, hanonymous, hmeta]
  cases e.name <;> cases e.anonymous <;> cases e.secondary <;> rfl

theorem lookup_kind_written : SortedMap.lookup "kind" e.written = none := by
  rw [h.lookup_written_attribute (by decide), h.find?_field (by decide), Option.map_none]

/-- **Reading the body** that has been written for an entity fails just on an empty key. -/
theorem ofBody_written_iff {d : Entity} :
    ofBody e.kind (.object e.written) = .ok d ↔ e.key ≠ "" ∧ d = e.reread := by
  simp only [ofBody_eq_ok_iff, Json.object.injEq, exists_eq_left', h.isBody_written,
    h.lookup_kind_written, true_and, reread]

/-- An entity without infinite numbers is read back as it was. -/
theorem reread_eq_self (hfinite : e.Finite) : e.reread = e := by
  have hattributes : e.reread.attributes = e.attributes := by
    refine SortedMap.ext_find? fun name => ?_
    rw [h.find?_reread]
    cases hv : e.attributes.find? name with
    | none => rfl
    | some v =>
      rw [Option.bind_some, AttributeValue.ofJson_toJson v (hfinite name v hv)]
      exact AttributeValue.nonNull?_eq_some_iff.2 ⟨rfl, (h.attributes name v hv).1⟩
  rw [h.reread_eq, hattributes]

/-- What is read back equals what it was just if no infinite number has been lost. -/
theorem equal_reread_iff : e.reread.equal e = true ↔ e.Finite := by
  constructor
  · intro hequal name v hv
    have hmembers := (Bool.and_eq_true_iff.1 hequal).2
    obtain ⟨w, hw, hwv⟩ := AttributeValue.exists_equal_of_equalMembers hmembers hv
    rw [← SortedMap.find?, h.find?_reread, hv, Option.bind_some,
      AttributeValue.nonNull?_eq_some_iff] at hw
    exact AttributeValue.isFinite_of_equal v (hw.1 ▸ hwv)
  · intro hfinite
    have hmembers : AttributeValue.isFiniteMembers e.attributes.entries = true :=
      AttributeValue.isFiniteMembers_iff.2 fun m hm =>
        hfinite m.1 m.2 (SortedMap.mem_entries_iff.1 hm)
    rw [h.reread_eq_self hfinite]
    simp [Entity.equal, AttributeValue.equalMembers_self _ hmembers]

end WellFormed

end Entity

/-! ## Contexts -/

theorem lookup_kind_ofList {j : Json} {l : List (String × Json)} (hl : (l.map Prod.fst).Nodup)
    (hkind : SortedMap.lookup "kind" l = none) :
    SortedMap.lookup "kind" (SortedMap.ofList (("kind", j) :: l)).entries = some j ∧
      withoutKind (SortedMap.ofList (("kind", j) :: l)).entries = (SortedMap.ofList l).entries := by
  have hnodup : ((("kind", j) :: l).map Prod.fst).Nodup := by
    refine List.nodup_cons.2 ⟨fun hmem => ?_, hl⟩
    obtain ⟨m, hm, hname⟩ := List.mem_map.1 hmem
    exact SortedMap.lookup_eq_none_iff.1 hkind m hm hname
  have hlookup : ∀ name, SortedMap.lookup name (SortedMap.ofList (("kind", j) :: l)).entries =
      SortedMap.lookup name (("kind", j) :: l) := SortedMap.find?_ofList hnodup
  refine ⟨hlookup "kind", SortedMap.eq_of_lookup_eq ((SortedMap.sorted _).filter _)
    (SortedMap.sorted _) fun name => ?_⟩
  rw [lookup_withoutKind, hlookup, ← SortedMap.find?, SortedMap.find?_ofList hl, SortedMap.lookup]
  split
  · next heq => rw [heq, hkind]
  · next hne => rw [if_neg (Ne.symm hne)]

namespace Context

variable {c d : Context}

/-- What a context is read back as once it has been written. -/
def reread : Context → Context
  | single e => .single e.reread
  | multi members => .multi (members.map Entity.reread)

theorem ofJson_toJson_single_iff {e : Entity} (h : e.WellFormed) :
    ofJson (toJson (.single e)) = .ok d ↔ e.key ≠ "" ∧ d = .single e.reread := by
  have hkind : SortedMap.lookup "kind" e.body = none := by
    rw [← SortedMap.find?_ofList h.nodup_body]
    exact h.lookup_kind_written
  obtain ⟨hlookup, hothers⟩ := lookup_kind_ofList (j := .string e.kind.name) h.nodup_body hkind
  have hname : Json.string e.kind.name ≠ .string multiKindName := fun heq =>
    e.kind.valid.2.1 (Json.string.inj heq ▸ List.mem_cons_of_mem _ List.mem_cons_self)
  rw [toJson, Json.ofMembers, ofJson_single_iff hlookup hname, hothers]
  constructor
  · rintro ⟨e', hname, he, rfl⟩
    rw [← Kind.eq_of_name_eq (Json.string.inj hname)] at he
    obtain ⟨hkey, rfl⟩ := h.ofBody_written_iff.1 he
    exact ⟨hkey, rfl⟩
  · rintro ⟨hkey, rfl⟩
    exact ⟨e.reread, rfl, h.ofBody_written_iff.2 ⟨hkey, rfl⟩, rfl⟩

/-- The bodies that are written for several entities, each filed under its kind. -/
def writtenBodies (members : List Entity) : List (String × Json) :=
  members.map fun e => (e.kind.name, .object e.written)

/-- Bodies that are filed under their kinds are read one by one. -/
theorem forall₂_writtenBodies_iff {members es : List Entity} (h : ∀ e ∈ members, e.WellFormed) :
    List.Forall₂ Entity.IsReadFrom (writtenBodies members) es ↔
      (∀ e ∈ members, e.key ≠ "") ∧ es = members.map Entity.reread := by
  induction members generalizing es with
  | nil => simp [writtenBodies]
  | cons e members ih =>
    obtain ⟨he, hmembers⟩ := List.forall_mem_cons.1 h
    rw [writtenBodies, List.map_cons, ← writtenBodies]
    simp only [List.map_cons, List.forall₂_cons_left_iff, ih hmembers, List.forall_mem_cons]
    constructor
    · rintro ⟨d, _, ⟨hname, hd⟩, ⟨hkeys, rfl⟩, rfl⟩
      rw [Kind.eq_of_name_eq hname] at hd
      obtain ⟨hkey, rfl⟩ := he.ofBody_written_iff.1 hd
      exact ⟨⟨hkey, hkeys⟩, rfl⟩
    · rintro ⟨⟨hkey, hkeys⟩, rfl⟩
      exact ⟨e.reread, _, ⟨rfl, he.ofBody_written_iff.2 ⟨hkey, rfl⟩⟩, ⟨hkeys, rfl⟩, rfl⟩

theorem toJson_multi (members : List Entity) :
    toJson (.multi members) = .object
      (SortedMap.ofList (("kind", .string multiKindName) :: writtenBodies members)).entries :=
  rfl

theorem ordered_reread (h : c.Ordered) : c.reread.Ordered := by
  cases c with
  | single e => exact trivial
  | multi members => exact ⟨by rw [List.length_map]; exact h.1, List.pairwise_map.2 h.2⟩

theorem ofJson_toJson_multi_iff {members : List Entity} (h : (multi members).WellFormed) :
    ofJson (toJson (.multi members)) = .ok d ↔
      (∀ e ∈ members, e.key ≠ "") ∧ d = .multi (members.map Entity.reread) := by
  have hsorted : (writtenBodies members).Pairwise KeyOrder := List.pairwise_map.2 h.2.2
  have hnodup : ((writtenBodies members).map Prod.fst).Nodup := SortedMap.nodup_keys ⟨_, hsorted⟩
  have hkind : SortedMap.lookup "kind" (writtenBodies members) = none := by
    refine SortedMap.lookup_eq_none_iff.2 fun m hm heq => ?_
    obtain ⟨e, -, rfl⟩ := List.mem_map.1 hm
    have heq : e.kind.name = "kind" := heq
    exact e.kind.valid.2.1 (heq ▸ List.mem_cons_self)
  obtain ⟨hlookup, hothers⟩ := lookup_kind_ofList (j := .string multiKindName) hnodup hkind
  rw [SortedMap.entries_ofList hsorted] at hothers
  rw [toJson_multi, ofJson_multi_iff hlookup]
  simp only [hothers, forall₂_writtenBodies_iff h.2.1]
  have hordered : (multi (members.map Entity.reread)).Ordered :=
    ordered_reread (wellFormed_iff.1 h).1
  constructor
  · rintro ⟨_, ⟨hkeys, rfl⟩, hd, hperm⟩
    exact ⟨hkeys, hd.eq_of_perm hordered hperm⟩
  · rintro ⟨hkeys, rfl⟩
    exact ⟨_, ⟨hkeys, rfl⟩, hordered, List.Perm.refl _⟩

/-- **Reading a context that has been written** fails just on an empty key. -/
theorem WellFormed.ofJson_toJson_iff (h : c.WellFormed) :
    ofJson c.toJson = .ok d ↔ (∀ e ∈ c.entities, e.key ≠ "") ∧ d = c.reread := by
  cases c with
  | single e =>
    rw [ofJson_toJson_single_iff h, entities, List.forall_mem_singleton]
    rfl
  | multi members => exact ofJson_toJson_multi_iff h

theorem WellFormed.equal_reread_iff (h : c.WellFormed) :
    c.reread.equal c = true ↔ ∀ e ∈ c.entities, e.Finite := by
  have hmembers := (wellFormed_iff.1 h).2
  cases c with
  | single e => exact (hmembers e List.mem_cons_self).equal_reread_iff.trans (by simp [entities])
  | multi members =>
    have hzip : (members.map Entity.reread).zip members = members.map fun e => (e.reread, e) := by
      simpa using (List.zip_map' : (members.map Entity.reread).zip (members.map id) = _)
    simp only [reread, equal, List.length_map, beq_self_eq_true, Bool.true_and, hzip, List.all_map,
      List.all_eq_true, Function.comp_apply]
    exact forall₂_congr fun e he => (hmembers e he).equal_reread_iff

theorem WellFormed.reread_eq_self (h : c.WellFormed) (hfinite : ∀ e ∈ c.entities, e.Finite) :
    c.reread = c := by
  have hmembers := (wellFormed_iff.1 h).2
  cases c with
  | single e =>
    rw [reread, (hmembers e List.mem_cons_self).reread_eq_self (hfinite e List.mem_cons_self)]
  | multi members =>
    rw [reread]
    exact congrArg multi ((List.map_congr_left fun e he =>
      (hmembers e he).reread_eq_self (hfinite e he)).trans (List.map_id members))

/-- **A context is read back as an equal one** just if none of its keys is empty and no number in
it is infinite or not a number, and then it is read back as it was. -/
theorem Obtainable.roundTrip (h : c.Obtainable) :
    ((∃ d, Context.ofJson c.toJson = .ok d ∧ d.equal c = true) ↔
        ∀ e ∈ c.entities, e.key ≠ "" ∧ e.Finite) ∧
      ((∀ e ∈ c.entities, e.key ≠ "" ∧ e.Finite) → Context.ofJson c.toJson = .ok c) := by
  have hform := h.wellFormed
  refine ⟨?_, fun hall => hform.ofJson_toJson_iff.2 ⟨fun e he => (hall e he).1, ?_⟩⟩
  · simp only [hform.ofJson_toJson_iff]
    constructor
    · rintro ⟨_, ⟨hkeys, rfl⟩, hequal⟩ e he
      exact ⟨hkeys e he, hform.equal_reread_iff.1 hequal e he⟩
    · intro hall
      exact ⟨_, ⟨fun e he => (hall e he).1, rfl⟩,
        hform.equal_reread_iff.2 fun e he => (hall e he).2⟩
  · exact (hform.reread_eq_self fun e he => (hall e he).2).symm

theorem roundTrip_deviceAndSubscriber :
    Context.ofJson deviceAndSubscriber.toJson = .ok deviceAndSubscriber := by
  refine obtainable_deviceAndSubscriber.roundTrip.2 fun e he => ?_
  rcases List.mem_pair.1 he with rfl | rfl
  · exact ⟨by decide, fun name v hv => by cases hv⟩
  · refine ⟨by decide, fun name v hv => ?_⟩
    simp only [subscriber, SortedMap.find?_insert] at hv
    split at hv <;> cases hv
    rfl

end Context

end FeatureFlags
