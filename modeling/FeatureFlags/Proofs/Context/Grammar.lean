import FeatureFlags.Proofs.Context.Forms

/-!
# Which objects are a context

`Json.isContext` says which objects are a context in one of the three forms, and `Context.Matches`
what such an object is the context of.  Neither mentions the order in which members are looked at or
attributes are set: the attributes of an entity are the members that are neither fields nor null,
and for a user in the older form also its texts, which stand before custom attributes of the same
name.

Reading accepts just these objects and gives what they say.  That the bodies of several kinds can be
put together rests on their names being different, and that what is found under a name is its only
member rests on it as well.

## What is here

* `Json.isContext`: the test of an object.
* `Entity.MatchesBody`, `Entity.MatchesUser`, `Context.Matches`: what the members of an object say.
* `Context.ofJson_object`: an object is accepted if it is a context, and gives what it says.
-/

set_option autoImplicit false

namespace FeatureFlags

/-! ## The test -/

namespace Json

/-- Whether a value is a body that can stand under a kind: it does not name a kind itself. -/
def isMemberBody (j : Json) : Bool :=
  j.members?.any fun ms => isBody ms && (SortedMap.lookup "kind" ms).isNone

/-- Whether the members of an object make a context: a user in the older form, at least one body
under its kind, or a body and its kind. -/
def isContext (ms : List (String × Json)) : Bool :=
  match SortedMap.lookup "kind" ms with
  | none => isUser ms
  | some (.string kind) =>
    if kind = Context.multiKindName then
      !(withoutKind ms).isEmpty &&
        (withoutKind ms).all fun m => decide (Kind.Valid m.1) && m.2.isMemberBody
    else decide (Kind.Valid kind) && isBody (withoutKind ms)
  | some _ => false

/-- No name occurs twice among the members of an object, nor among those of an object in it. -/
def NamesOnce (ms : List (String × Json)) : Prop :=
  (ms.map Prod.fst).Nodup ∧ ∀ m ∈ ms, ∀ inner, m.2 = .object inner → (inner.map Prod.fst).Nodup

end Json

/-! ## What an object says -/

/-- The members of a body say what an entity is, except for its kind. -/
structure Entity.MatchesBody (ms : List (String × Json)) (e : Entity) : Prop where
  key : SortedMap.lookup "key" ms = some (.string e.key)
  name : e.name = (SortedMap.lookup "name" ms).bind Json.text?
  anonymous : e.anonymous = true ↔ SortedMap.lookup "anonymous" ms = some (.bool true)
  secondary : e.secondary = (((SortedMap.lookup "_meta" ms).bind Json.metaMembers?).bind
    (SortedMap.lookup "secondary")).bind Json.text?
  attributes : ∀ name value, e.attributes.find? name = some value ↔
    name ∉ bodyFields ∧ ∃ j, (name, j) ∈ ms ∧ j ≠ .null ∧ value = .ofJson j

/-- The members of an object in the older form say who a user is. -/
structure Entity.MatchesUser (ms : List (String × Json)) (e : Entity) : Prop where
  kind : e.kind = .user
  key : SortedMap.lookup "key" ms = some (.string e.key)
  name : e.name = (SortedMap.lookup "name" ms).bind Json.text?
  anonymous : e.anonymous = true ↔ SortedMap.lookup "anonymous" ms = some (.bool true)
  secondary : e.secondary = (SortedMap.lookup "secondary" ms).bind Json.text?
  attributes : ∀ name value, e.attributes.find? name = some value ↔
    (name ∈ userTextFields ∧ ∃ s, (name, .string s) ∈ ms ∧ value = .string s) ∨
    (name ∉ userReservedNames ∧ name ≠ "" ∧ name ≠ "_meta" ∧
      ∃ custom j, ("custom", .object custom) ∈ ms ∧ (name, j) ∈ custom ∧ j ≠ .null ∧
        value = .ofJson j)

/-- The members of an object say what a context is, in one of the three forms. -/
inductive Context.Matches (ms : List (String × Json)) : Context → Prop
  /-- A user in the older form. -/
  | user {e : Entity} : SortedMap.lookup "kind" ms = none → e.MatchesUser ms →
      Matches ms (.single e)
  /-- Bodies under their kinds, in any order. -/
  | several {c : Context} {es : List Entity} :
      SortedMap.lookup "kind" ms = some (.string Context.multiKindName) →
      List.Forall₂ (fun m e => e.kind.name = m.1 ∧ ∃ body, m.2 = .object body ∧ e.MatchesBody body)
        (withoutKind ms) es →
      c.Ordered → c.entities.Perm es → Matches ms c
  /-- A body with its kind. -/
  | single {e : Entity} : SortedMap.lookup "kind" ms = some (.string e.kind.name) →
      e.MatchesBody (withoutKind ms) → Matches ms (.single e)

/-! ## Bodies -/

theorem AttributeValue.ofJson_eq_null_iff {j : Json} :
    AttributeValue.ofJson j = .null ↔ j = .null := by
  cases j <;> simp [AttributeValue.ofJson]

theorem AttributeValue.nonNull?_ofJson {j : Json} {value : AttributeValue} :
    (AttributeValue.ofJson j).nonNull? = some value ↔ j ≠ .null ∧ value = .ofJson j := by
  rw [nonNull?_eq_some_iff]
  constructor
  · rintro ⟨rfl, hne⟩
    exact ⟨fun h => hne (ofJson_eq_null_iff.2 h), rfl⟩
  · rintro ⟨hne, rfl⟩
    exact ⟨rfl, fun h => hne (ofJson_eq_null_iff.1 h)⟩

namespace Entity

variable {ms : List (String × Json)} {e : Entity} {kind : Kind}

/-- An attribute of a body is a member that is no field, unless it is null. -/
theorem find?_ofMembers (hms : (ms.map Prod.fst).Nodup) (name : String) :
    (ofMembers kind ms).attributes.find? name =
      if name ∈ bodyFields then none
      else (SortedMap.lookup name ms).bind fun j => (AttributeValue.ofJson j).nonNull? := by
  have hnodup : (((bodyExtras ms).map fun m => (m.1, AttributeValue.ofJson m.2)).map
      Prod.fst).Nodup := by
    rw [List.map_map]
    exact hms.sublist (List.filter_sublist.map _)
  rw [ofMembers, SortedMap.find?_assignAll hnodup, SortedMap.lookup_map, lookup_bodyExtras]
  split
  · rfl
  · cases SortedMap.lookup name ms <;> rfl

theorem anonymous_iff {ms : List (String × Json)} :
    ((SortedMap.lookup "anonymous" ms).bind Json.truth?).getD false = true ↔
      SortedMap.lookup "anonymous" ms = some (.bool true) := by
  cases h : SortedMap.lookup "anonymous" ms with
  | none => simp
  | some j => cases j <;> simp [Json.truth?]

theorem matchesBody_ofMembers (hms : (ms.map Prod.fst).Nodup) (hbody : Json.isBody ms = true) :
    (ofMembers kind ms).MatchesBody ms where
  key := by
    obtain ⟨key, hkey, -⟩ := Json.exists_key_of_isBody hbody
    rw [ofMembers, hkey]
    rfl
  name := rfl
  anonymous := anonymous_iff
  secondary := rfl
  attributes := by
    intro name value
    rw [find?_ofMembers hms]
    split
    · next hfield => simp [hfield]
    · next hfield =>
      simp only [hfield, Option.bind_eq_some_iff, AttributeValue.nonNull?_ofJson,
        SortedMap.lookup_eq_some_iff hms, not_false_eq_true, true_and]

/-! ## Users

The texts and the custom attributes of a user are set one after the other.  No name occurs among
both, so what is found under a name in the end is what has been given there. -/

/-- The texts of a user are looked up among its members. -/
theorem lookup_userTexts (name : String) :
    SortedMap.lookup name (userTexts ms) =
      if name ∈ userTextFields then
        ((SortedMap.lookup name ms).bind Json.text?).map .string
      else none := by
  rw [userTexts]
  induction userTextFields with
  | nil => rfl
  | cons field fields ih =>
    rw [List.filterMap_cons]
    by_cases heq : field = name
    · subst heq
      cases htext : (SortedMap.lookup field ms).bind Json.text? with
      | none => simpa [htext] using ih
      | some s => simp [SortedMap.lookup]
    · have hmem : name ∈ field :: fields ↔ name ∈ fields := by simp [Ne.symm heq]
      simp only [hmem, ← ih]
      cases (SortedMap.lookup field ms).bind Json.text? with
      | none => rfl
      | some s => simp [SortedMap.lookup, heq]

theorem lookup_userCustom (name : String) :
    SortedMap.lookup name (userCustom ms) =
      if name ∈ userReservedNames then none
      else (SortedMap.lookup name (customMembers ms)).map .ofJson := by
  rw [userCustom, SortedMap.lookup_map,
    SortedMap.lookup_filter_key fun name => !userReservedNames.contains name]
  by_cases h : name ∈ userReservedNames <;> simp [h]

theorem mem_customMembers_iff (hms : (ms.map Prod.fst).Nodup) {m : String × Json} :
    m ∈ customMembers ms ↔ ∃ custom, ("custom", .object custom) ∈ ms ∧ m ∈ custom := by
  simp only [← SortedMap.lookup_eq_some_iff hms, customMembers]
  cases hcustom : (SortedMap.lookup "custom" ms).bind Json.members? with
  | none =>
    refine ⟨fun hm => absurd hm List.not_mem_nil, ?_⟩
    rintro ⟨custom, hlookup, -⟩
    rw [hlookup] at hcustom
    cases hcustom
  | some custom =>
    obtain ⟨j, hlookup, hmembers⟩ := Option.bind_eq_some_iff.1 hcustom
    obtain rfl := Json.members?_eq_some_iff.1 hmembers
    refine ⟨fun hm => ⟨custom, hlookup, hm⟩, ?_⟩
    rintro ⟨custom', hlookup', hm⟩
    cases hlookup.symm.trans hlookup'
    exact hm

/-- The custom attributes of a user have different names. -/
theorem nodup_customMembers (hms : Json.NamesOnce ms) :
    ((customMembers ms).map Prod.fst).Nodup := by
  rw [customMembers]
  cases hcustom : (SortedMap.lookup "custom" ms).bind Json.members? with
  | none => exact List.nodup_nil
  | some custom =>
    obtain ⟨j, hj, hmembers⟩ := Option.bind_eq_some_iff.1 hcustom
    exact hms.2 _ (SortedMap.mem_of_lookup hj) custom (Json.members?_eq_some_iff.1 hmembers)

/-- No attribute of a user is set twice: custom attributes cannot take the names of texts. -/
theorem nodup_userExtras (hms : Json.NamesOnce ms) : ((userExtras ms).map Prod.fst).Nodup := by
  rw [userExtras, List.map_append, List.nodup_append]
  refine ⟨?_, ?_, ?_⟩
  · have hfields : userTextFields.Nodup := by decide
    refine List.pairwise_map.2 (List.pairwise_filterMap.2 (hfields.imp fun {f f'} hne => ?_))
    intro a ha a' ha'
    obtain ⟨-, -, rfl⟩ := Option.map_eq_some_iff.1 ha
    obtain ⟨-, -, rfl⟩ := Option.map_eq_some_iff.1 ha'
    exact hne
  · rw [userCustom, List.map_map]
    exact (nodup_customMembers hms).sublist (List.filter_sublist.map _)
  · intro name hname name' hname' heq
    obtain ⟨a, ha, rfl⟩ := List.mem_map.1 hname
    obtain ⟨a', ha', rfl⟩ := List.mem_map.1 hname'
    obtain ⟨field, hfield, ha⟩ := List.mem_filterMap.1 ha
    obtain ⟨s, -, rfl⟩ := Option.map_eq_some_iff.1 ha
    obtain ⟨m, hm, rfl⟩ := List.mem_map.1 ha'
    have hreserved : m.1 ∉ userReservedNames := by simpa using (List.mem_filter.1 hm).2
    exact hreserved (heq ▸ by simp [userReservedNames, hfield])

/-- An attribute of a user is one of the texts, or else a custom attribute that is not null. -/
theorem find?_ofUserMembers (hms : Json.NamesOnce ms) (name : String) :
    (ofUserMembers ms).attributes.find? name =
      if name ∈ userTextFields then
        ((SortedMap.lookup name ms).bind Json.text?).map .string
      else if name ∈ userReservedNames ∨ name = "" ∨ name = "_meta" then none
      else (SortedMap.lookup name (customMembers ms)).bind
        fun j => (AttributeValue.ofJson j).nonNull? := by
  have hnodup : (((userExtras ms).filter fun a => a.1 ≠ "" && a.1 ≠ "_meta").map Prod.fst).Nodup :=
    (nodup_userExtras hms).sublist (List.filter_sublist.map _)
  rw [ofUserMembers, SortedMap.find?_assignAll hnodup,
    SortedMap.lookup_filter_key fun name => name ≠ "" && name ≠ "_meta", userExtras,
    SortedMap.lookup_append, lookup_userTexts, lookup_userCustom]
  by_cases htext : name ∈ userTextFields
  · -- a custom attribute of this name has been left out
    have hfields : ∀ name ∈ userTextFields,
        name ∈ userReservedNames ∧ (decide (name ≠ "") && decide (name ≠ "_meta")) = true := by
      decide
    simp only [htext, hfields name htext, if_true, Option.or_none]
    cases (SortedMap.lookup name ms).bind Json.text? <;> rfl
  · by_cases hname : name = "" ∨ name = "_meta"
    · -- the builder refuses these names
      have hcond : (decide (name ≠ "") && decide (name ≠ "_meta")) = false := by
        rcases hname with rfl | rfl <;> rfl
      simp only [hcond, htext, hname, or_true, if_true, if_false, Bool.false_eq_true]
      rfl
    · obtain ⟨hempty, hmeta⟩ := not_or.1 hname
      by_cases hreserved : name ∈ userReservedNames
      · simp [htext, hempty, hmeta, hreserved]
      · simp only [htext, hempty, hmeta, hreserved, if_false, Option.none_or, ne_eq,
          not_false_eq_true, decide_true, Bool.and_true, if_true, or_false]
        cases SortedMap.lookup name (customMembers ms) <;> rfl

theorem matchesUser_ofUserMembers (hms : Json.NamesOnce ms) (huser : Json.isUser ms = true) :
    (ofUserMembers ms).MatchesUser ms where
  kind := rfl
  key := by
    obtain ⟨key, hkey⟩ := Json.exists_key_of_isUser huser
    rw [ofUserMembers, hkey]
    rfl
  name := rfl
  anonymous := anonymous_iff
  secondary := rfl
  attributes := by
    intro name value
    rw [find?_ofUserMembers hms]
    have hfields : ∀ name ∈ userTextFields, name ∈ userReservedNames := by decide
    split
    · next htext =>
      simp only [htext, hfields name htext, true_and, not_true_eq_false, false_and, or_false,
        Option.map_eq_some_iff, Option.bind_eq_some_iff, Json.text?_eq_some_iff,
        SortedMap.lookup_eq_some_iff hms.1]
      constructor
      · rintro ⟨s, ⟨_, hmem, rfl⟩, rfl⟩
        exact ⟨s, hmem, rfl⟩
      · rintro ⟨s, hmem, rfl⟩
        exact ⟨s, ⟨_, hmem, rfl⟩, rfl⟩
    · next htext =>
      simp only [htext, false_and, false_or]
      split
      · next hname =>
        simp only [reduceCtorEq, false_iff]
        rintro ⟨hreserved, hempty, hmeta, -⟩
        exact hname.elim hreserved fun h => h.elim hempty hmeta
      · next hname =>
        simp only [not_or] at hname
        simp only [hname, not_false_eq_true, ne_eq, true_and, Option.bind_eq_some_iff,
          AttributeValue.nonNull?_ofJson, SortedMap.lookup_eq_some_iff (nodup_customMembers hms),
          mem_customMembers_iff hms.1]
        constructor
        · rintro ⟨j, ⟨custom, hcustom, hmem⟩, hj⟩
          exact ⟨custom, j, hcustom, hmem, hj⟩
        · rintro ⟨custom, j, hcustom, hmem, hj⟩
          exact ⟨j, ⟨custom, hcustom, hmem⟩, hj⟩

/-! ## Readers of entities -/

theorem exists_ofBody_iff {j : Json} :
    (∃ e, ofBody kind j = .ok e) ↔ j.isMemberBody = true := by
  simp only [ofBody_eq_ok_iff, Json.isMemberBody, Option.any_eq_true, Json.members?_eq_some_iff,
    Bool.and_eq_true, Option.isNone_iff_eq_none]
  constructor
  · rintro ⟨-, body, hj, hbody, hkind, rfl⟩
    exact ⟨body, hj, hbody, hkind⟩
  · rintro ⟨body, hj, hbody, hkind⟩
    exact ⟨_, body, hj, hbody, hkind, rfl⟩

theorem matchesBody_of_ofBody_eq_ok {j : Json} (h : ofBody kind j = .ok e)
    (hnodup : ∀ body, j = .object body → (body.map Prod.fst).Nodup) :
    ∃ body, j = .object body ∧ e.MatchesBody body := by
  obtain ⟨body, hj, hbody, -, rfl⟩ := ofBody_eq_ok_iff.1 h
  exact ⟨body, hj, matchesBody_ofMembers (hnodup body hj) hbody⟩

end Entity

/-! ## Contexts -/

namespace Context

variable {l ms : List (String × Json)} {es : List Entity} {c : Context}

/-- Several bodies can be read if each of them can. -/
theorem exists_forall₂_isReadFrom_iff :
    (∃ es, List.Forall₂ Entity.IsReadFrom l es) ↔
      (l.all fun m => decide (Kind.Valid m.1) && m.2.isMemberBody) = true := by
  induction l with
  | nil => simp
  | cons m l ih =>
    simp only [List.all_cons, Bool.and_eq_true, ← ih, List.forall₂_cons_left_iff]
    constructor
    · rintro ⟨_, e, es, ⟨hname, he⟩, hes, -⟩
      exact ⟨⟨decide_eq_true (hname ▸ e.kind.valid), Entity.exists_ofBody_iff.1 ⟨e, he⟩⟩, es, hes⟩
    · rintro ⟨⟨hvalid, hbody⟩, es, hes⟩
      obtain ⟨e, he⟩ : ∃ e, Entity.ofBody ⟨m.1, of_decide_eq_true hvalid⟩ m.2 = .ok e :=
        Entity.exists_ofBody_iff.2 hbody
      have hkind := Entity.kind_of_ofBody_eq_ok he
      exact ⟨_, e, es, ⟨congrArg Kind.name hkind, hkind ▸ he⟩, hes, rfl⟩

/-- Entities that are filed under different names have different kinds. -/
theorem exists_ordered_of_isReadFrom (hes : List.Forall₂ Entity.IsReadFrom l es) (hne : l ≠ [])
    (hnodup : (l.map Prod.fst).Nodup) : ∃ c : Context, c.Ordered ∧ c.entities.Perm es := by
  have hnames : es.map (fun e => e.kind.name) = l.map Prod.fst := by
    clear hne hnodup
    induction hes with
    | nil => rfl
    | cons h _ ih => rw [List.map_cons, List.map_cons, h.1, ih]
  have hkinds : (es.map Entity.kind).Nodup :=
    List.Nodup.of_map Kind.name (by rw [List.map_map]; exact hnames ▸ hnodup)
  have hnil : es ≠ [] := by
    rintro rfl
    exact hne (List.map_eq_nil_iff.1 hnames.symm)
  obtain ⟨c, hc⟩ : ∃ c, combine (es.map single) = .ok c := exists_combine_eq_ok
    (by rwa [flatMap_entities_single]) (by rwa [flatMap_entities_single])
  rw [combine_eq_ok_iff, flatMap_entities_single] at hc
  exact ⟨c, hc⟩

theorem exists_ofJson_iff (hms : Json.NamesOnce ms) :
    (∃ c, ofJson (.object ms) = .ok c) ↔ Json.isContext ms = true := by
  rw [Json.isContext]
  cases hkind : SortedMap.lookup "kind" ms with
  | none =>
    simp only [ofJson_user_iff hkind, Entity.ofUser_eq_ok_iff, Json.object.injEq]
    constructor
    · rintro ⟨_, _, ⟨_, rfl, huser, rfl⟩, -⟩
      exact huser
    · exact fun huser => ⟨_, _, ⟨ms, rfl, huser, rfl⟩, rfl⟩
  | some j =>
    by_cases hmulti : j = .string multiKindName
    · subst hmulti
      simp only [ofJson_multi_iff hkind, if_true, Bool.and_eq_true, ← exists_forall₂_isReadFrom_iff,
        Bool.not_eq_true', List.isEmpty_eq_false_iff]
      constructor
      · rintro ⟨c, es, hes, hordered, hperm⟩
        refine ⟨fun hnil => hordered.entities_ne_nil ?_, es, hes⟩
        rw [hnil, List.forall₂_nil_left_iff] at hes
        exact List.perm_nil.1 (hes ▸ hperm)
      · rintro ⟨hne, es, hes⟩
        obtain ⟨c, hc⟩ := exists_ordered_of_isReadFrom hes hne (nodup_withoutKind hms.1)
        exact ⟨c, es, hes, hc⟩
    · simp only [ofJson_single_iff hkind hmulti, Entity.ofBody_eq_ok_iff, Json.object.injEq]
      constructor
      · rintro ⟨_, e, rfl, ⟨_, rfl, hbody, -, -⟩, -⟩
        have hname : e.kind.name ≠ multiKindName := fun h => hmulti (congrArg _ h)
        simp only [if_neg hname, hbody, Bool.and_true]
        exact decide_eq_true e.kind.valid
      · intro h
        split at h
        · next heq => cases heq
        · next kind heq =>
          cases heq
          rw [if_neg fun h => hmulti (congrArg _ h), Bool.and_eq_true] at h
          have hnone : SortedMap.lookup "kind" (withoutKind ms) = none := by
            rw [lookup_withoutKind, if_pos rfl]
          exact ⟨_, Entity.ofMembers ⟨kind, of_decide_eq_true h.1⟩ (withoutKind ms), rfl,
            ⟨_, rfl, h.2, hnone, rfl⟩, rfl⟩
        · cases h

/-- A context that has been read is the one that the members say. -/
theorem matches_of_ofJson_eq_ok (hms : Json.NamesOnce ms) (h : ofJson (.object ms) = .ok c) :
    Matches ms c := by
  cases hkind : SortedMap.lookup "kind" ms with
  | none =>
    obtain ⟨_, he, rfl⟩ := (ofJson_user_iff hkind).1 h
    obtain ⟨_, ⟨⟩, huser, rfl⟩ := Entity.ofUser_eq_ok_iff.1 he
    exact .user hkind (Entity.matchesUser_ofUserMembers hms huser)
  | some j =>
    by_cases hmulti : j = .string multiKindName
    · subst hmulti
      obtain ⟨es, hes, hordered, hperm⟩ := (ofJson_multi_iff hkind).1 h
      have hbodies : ∀ m ∈ withoutKind ms, ∀ body, m.2 = .object body →
          (body.map Prod.fst).Nodup := fun m hm => hms.2 m (List.mem_of_mem_filter hm)
      refine .several hkind (((List.forall₂_and_left _ _).2 ⟨hbodies, hes⟩).imp ?_) hordered hperm
      rintro m e ⟨hbody, hname, he⟩
      exact ⟨hname, Entity.matchesBody_of_ofBody_eq_ok he hbody⟩
    · obtain ⟨e, rfl, he, rfl⟩ := (ofJson_single_iff hkind hmulti).1 h
      obtain ⟨_, ⟨⟩, hbody⟩ := Entity.matchesBody_of_ofBody_eq_ok he (by
        rintro _ ⟨⟩
        exact nodup_withoutKind hms.1)
      exact .single hkind hbody

/-- **An object is read as a context** exactly when it is one in one of the three forms, and the
context is the one that its members say. -/
theorem ofJson_object (hms : Json.NamesOnce ms) :
    ((∃ c, ofJson (.object ms) = .ok c) ↔ Json.isContext ms = true) ∧
      ∀ c, ofJson (.object ms) = .ok c → Matches ms c :=
  ⟨exists_ofJson_iff hms, fun _ h => matches_of_ofJson_eq_ok hms h⟩

/-- The members of a context of an organisation and a user, with a null attribute. -/
def twoKinds : List (String × Json) :=
  [("kind", .string "multi"),
    ("user", .object [("key", .string "u"), ("_meta", .object [("secondary", .string "s")])]),
    ("org", .object [("key", .string "o"), ("plan", .string "pro"), ("region", .null)])]

theorem namesOnce_twoKinds : Json.NamesOnce twoKinds := by
  refine ⟨by decide, ?_⟩
  simp [twoKinds]

theorem ofJson_twoKinds : ∃ c, ofJson (.object twoKinds) = .ok c ∧ Matches twoKinds c := by
  obtain ⟨c, hc⟩ := (ofJson_object namesOnce_twoKinds).1.2 (by decide)
  exact ⟨c, hc, (ofJson_object namesOnce_twoKinds).2 c hc⟩

end Context

end FeatureFlags
