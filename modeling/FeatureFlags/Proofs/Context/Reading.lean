import FeatureFlags.Proofs.Context.Builder
import FeatureFlags.Proofs.Json.Fields

/-!
# What readers of entities accept

An entity has two forms as JSON: the body that stands under a kind, and the older form of a user.
For each of them there is a test of the members of an object, which says nothing about the order in
which they are looked at, and the entity that the members make.  Reading an object gives that entity
if the members pass the test, and fails otherwise.

## What is here

* `Json.isBody`, `Json.isUser`: the tests.
* `Entity.ofMembers`, `Entity.ofUserMembers`: the entities.
* `Entity.ofBody_eq_ok_iff`, `Entity.ofUser_eq_ok_iff`: reading in terms of them.
-/

set_option autoImplicit false

namespace FeatureFlags

/-! ## Tests of members -/

namespace Json

/-- Whether a value is null or a text. -/
def isTextOrNull (j : Json) : Bool := j.isNull || j.isText

/-- The members of a value that stands as `_meta`.  A list stands for an object with no member, or
with the secondary key alone. -/
def metaMembers? : Json → Option (List (String × Json))
  | object inner => some inner
  | array [] => some []
  | array [j] => some [("secondary", j)]
  | _ => none

/-- Whether a value can stand as `_meta`. -/
def isMeta (j : Json) : Bool :=
  j.isNull || j.metaMembers?.any fun inner => (SortedMap.lookup "secondary" inner).all isTextOrNull

/-- Whether the members of an object make a body: a key that is not empty, and where they are given
a name, a truth value and a `_meta`.  No member has the empty name. -/
def isBody (ms : List (String × Json)) : Bool :=
  ((SortedMap.lookup "key" ms).bind text?).any (· ≠ "") &&
    (SortedMap.lookup "name" ms).all isTextOrNull &&
    (SortedMap.lookup "anonymous" ms).all isTruth &&
    (SortedMap.lookup "_meta" ms).all isMeta &&
    (SortedMap.lookup "" ms).isNone

/-- Whether the members of an object make a user in the older form: a key, and where they are given
texts, a truth value and an object of custom attributes. -/
def isUser (ms : List (String × Json)) : Bool :=
  ((SortedMap.lookup "key" ms).bind text?).isSome &&
    (["secondary", "name", "ip", "email", "firstName", "lastName", "avatar", "country"].all
      fun name => (SortedMap.lookup name ms).all isTextOrNull) &&
    ((SortedMap.lookup "anonymous" ms).all fun j => j.isNull || j.isTruth) &&
    (SortedMap.lookup "custom" ms).all fun j => j.isNull || j.isObject

variable {ms : List (String × Json)}

theorem exists_key_of_isBody (h : isBody ms = true) :
    ∃ key, SortedMap.lookup "key" ms = some (string key) ∧ key ≠ "" := by
  simp only [isBody, Bool.and_eq_true] at h
  obtain ⟨key, hkey, hne⟩ := (Option.any_eq_true _ _).1 h.1.1.1.1
  obtain ⟨j, hj, htext⟩ := Option.bind_eq_some_iff.1 hkey
  exact ⟨key, text?_eq_some_iff.1 htext ▸ hj, of_decide_eq_true hne⟩

theorem exists_key_of_isUser (h : isUser ms = true) :
    ∃ key, SortedMap.lookup "key" ms = some (string key) := by
  simp only [isUser, Bool.and_eq_true] at h
  obtain ⟨key, hkey⟩ := Option.isSome_iff_exists.1 h.1.1.1
  obtain ⟨j, hj, htext⟩ := Option.bind_eq_some_iff.1 hkey
  exact ⟨key, text?_eq_some_iff.1 htext ▸ hj⟩

end Json

/-! ## Bodies -/

/-- The members of a body that are no fields of it. -/
def bodyExtras (ms : List (String × Json)) : List (String × Json) :=
  ms.filter fun m => !bodyFields.contains m.1

theorem lookup_bodyExtras (name : String) (ms : List (String × Json)) :
    SortedMap.lookup name (bodyExtras ms) =
      if name ∈ bodyFields then none else SortedMap.lookup name ms := by
  rw [bodyExtras, SortedMap.lookup_filter_key fun name => !bodyFields.contains name]
  by_cases h : name ∈ bodyFields <;> simp [h]

theorem isReserved_of_mem_bodyExtras {ms : List (String × Json)}
    (hkind : SortedMap.lookup "kind" ms = none) :
    ∀ m ∈ bodyExtras ms, ContextBuilder.isReserved m.1 = false := by
  intro m hm
  obtain ⟨hmem, hfield⟩ := List.mem_filter.1 hm
  have hne : m.1 ≠ "kind" := SortedMap.lookup_eq_none_iff.1 hkind m hmem
  have hfield : m.1 ∉ bodyFields := by simpa using hfield
  simp only [bodyFields, List.mem_cons, List.not_mem_nil, or_false, not_or] at hfield
  simp [ContextBuilder.isReserved, hne, hfield]

namespace Entity

/-- The entity of a kind that the members of a body make. -/
def ofMembers (kind : Kind) (ms : List (String × Json)) : Entity where
  kind := kind
  key := ((SortedMap.lookup "key" ms).bind Json.text?).getD ""
  name := (SortedMap.lookup "name" ms).bind Json.text?
  anonymous := ((SortedMap.lookup "anonymous" ms).bind Json.truth?).getD false
  secondary := (((SortedMap.lookup "_meta" ms).bind Json.metaMembers?).bind
    (SortedMap.lookup "secondary")).bind Json.text?
  attributes := SortedMap.empty.assignAll ((bodyExtras ms).map fun m => (m.1, .ofJson m.2))

/-- What `_meta` is read as, if it can be read. -/
def metaSecondary? (j : Json) : Option (Option String) :=
  j.metaMembers?.bind fun inner =>
    if (SortedMap.lookup "secondary" inner).all Json.isTextOrNull then
      some ((SortedMap.lookup "secondary" inner).bind Json.text?)
    else none

theorem fields_eq_ok_iff {j : Json} {inner : List (String × Json)} :
    Decode.fields ["secondary"] 0 j = .ok inner ↔ j.metaMembers? = some inner := by
  rw [Decode.fields.eq_def]
  split
  · simp [Json.metaMembers?]
  · next items =>
    match items with
    | [] => simp [Json.metaMembers?]
    | [j] => simp [Json.metaMembers?]
    | _ :: _ :: _ => simp [Json.metaMembers?]
  · next hobject harray => cases j <;> simp_all [Json.metaMembers?]

theorem reads_secondaryOfMeta : Decode.Reads secondaryOfMeta metaSecondary? := by
  intro j a
  simp only [secondaryOfMeta, Decode.bind_eq_ok_iff, fields_eq_ok_iff,
    Decode.optionalField_eq_ok_iff Decode.reads_string rfl, metaSecondary?,
    Option.bind_eq_some_iff]
  refine exists_congr fun inner => and_congr_right fun _ => ?_
  split
  · next htext =>
    exact ⟨fun h => congrArg some h.2.symm, fun h => ⟨htext, (Option.some.inj h).symm⟩⟩
  · next htext =>
    refine ⟨fun h => absurd h.1 htext, ?_⟩
    rintro ⟨⟩

theorem isMeta_eq (j : Json) : j.isMeta = (j.isNull || (metaSecondary? j).isSome) := by
  rw [Json.isMeta, metaSecondary?]
  cases j.metaMembers? with
  | none => rfl
  | some inner =>
    rw [Option.any_some, Option.bind_some]
    split
    · next htext => rw [htext]; rfl
    · next htext => rw [Bool.eq_false_iff.2 htext]; rfl

theorem join_metaSecondary? {j : Json} (h : j.isMeta = true) :
    (metaSecondary? j).join =
      (j.metaMembers?.bind (SortedMap.lookup "secondary")).bind Json.text? := by
  rw [Json.isMeta] at h
  rw [metaSecondary?]
  cases hj : j.metaMembers? with
  | none => rfl
  | some inner =>
    have hnull : j.isNull = false := by
      cases j <;> first | rfl | cases hj
    rw [hj, hnull, Bool.false_or, Option.any_some] at h
    rw [Option.bind_some, if_pos h]
    rfl

/-- The rest of reading a body, once its fields have been read. -/
theorem setAll_bind_eq_ok_iff {kind : Kind} {ms : List (String × Json)} {b : ContextBuilder}
    {e : Entity} (hms : SortedMap.lookup "kind" ms = none) (hkind : kind.name = b.kind)
    (hkey : b.allowsEmptyKey = false) :
    (b.setAll (bodyExtras ms) >>= fun b =>
        match b.entity with
        | .ok e => pure e
        | .error e => throw (.build e)) = Except.ok e ↔
      SortedMap.lookup "" ms = none ∧ b.key ≠ "" ∧
        e = ⟨kind, b.key, b.name, b.anonymous, b.secondary,
          b.attributes.assignAll ((bodyExtras ms).map fun m => (m.1, .ofJson m.2))⟩ := by
  have hnames : (∀ m ∈ bodyExtras ms, m.1 ≠ "") ↔ SortedMap.lookup "" ms = none := by
    rw [← SortedMap.lookup_eq_none_iff, lookup_bodyExtras, if_neg (by decide)]
  simp only [Decode.bind_eq_ok_iff, hnames,
    ContextBuilder.setAll_eq_ok_iff (isReserved_of_mem_bodyExtras hms)]
  constructor
  · rintro ⟨b', ⟨hempty, rfl⟩, hb⟩
    split at hb
    · next heq =>
      cases hb
      obtain ⟨kind', hname, hne, rfl⟩ := ContextBuilder.entity_eq_ok_iff.1 heq
      obtain rfl : kind' = kind := Kind.eq_of_name_eq (hname.trans hkind.symm)
      exact ⟨hempty, hne.resolve_right fun h => Bool.false_ne_true (hkey.symm.trans h), rfl⟩
    · cases hb
  · rintro ⟨hempty, hne, rfl⟩
    refine ⟨_, ⟨hempty, rfl⟩, ?_⟩
    rw [ContextBuilder.entity_of_kind (b := b.assignAll _) hkind (Or.inl hne)]
    rfl

/-- **Reading a body** gives the entity that its members make, if they make one. -/
theorem ofBody_eq_ok_iff {kind : Kind} {j : Json} {e : Entity} :
    ofBody kind j = .ok e ↔ ∃ ms, j = .object ms ∧ Json.isBody ms = true ∧
      SortedMap.lookup "kind" ms = none ∧ e = ofMembers kind ms := by
  unfold ofBody
  simp only [Decode.bind_eq_ok_iff, Decode.reads_members _ _, Json.members?_eq_some_iff,
    Decode.require_eq_ok_iff, Decode.fieldOr_eq_ok_iff Decode.reads_bool,
    Decode.field_eq_ok_iff Decode.reads_string,
    Decode.optionalField_eq_ok_iff Decode.reads_string rfl,
    Decode.optionalField_eq_ok_iff reads_secondaryOfMeta rfl, ← isMeta_eq]
  refine exists_congr fun ms => and_congr_right fun _ => ?_
  cases hkind : SortedMap.lookup "kind" ms with
  | some k => simp [throw, throwThe, MonadExceptOf.throw, Bind.bind, Except.bind]
  | none =>
    have hsecondary : (SortedMap.lookup "_meta" ms).all Json.isMeta = true →
        ((SortedMap.lookup "_meta" ms).bind metaSecondary?).join =
          (((SortedMap.lookup "_meta" ms).bind Json.metaMembers?).bind
            (SortedMap.lookup "secondary")).bind Json.text? := by
      cases SortedMap.lookup "_meta" ms with
      | none => exact fun _ => rfl
      | some j => exact fun h => join_metaSecondary? h
    simp only [Json.isBody, Bool.and_eq_true, Option.isNone_iff_eq_none]
    constructor
    · rintro ⟨info, ⟨hmeta, rfl⟩, anonymous, ⟨hanonymous, rfl⟩, text, ⟨-, rfl⟩, name,
        ⟨hname, rfl⟩, key, hkey, hb⟩
      obtain ⟨hempty, hne, rfl⟩ := (setAll_bind_eq_ok_iff hkind rfl rfl).1 hb
      have hne : key ≠ "" := hne
      refine ⟨⟨⟨⟨⟨?_, hname⟩, hanonymous⟩, hmeta⟩, hempty⟩, trivial, ?_⟩
      · rw [hkey, Option.any_some, decide_eq_true hne]
      · simp only [ofMembers, hkey, ← hsecondary hmeta]
        rfl
    · rintro ⟨⟨⟨⟨⟨hkey, hname⟩, hanonymous⟩, hmeta⟩, hempty⟩, -, rfl⟩
      obtain ⟨key, htext, hne⟩ := (Option.any_eq_true _ _).1 hkey
      refine ⟨_, ⟨hmeta, rfl⟩, _, ⟨hanonymous, rfl⟩, _,
        ⟨Decode.all_isSome_of_bind_eq_some htext, rfl⟩, _, ⟨hname, rfl⟩, key, htext, ?_⟩
      refine (setAll_bind_eq_ok_iff hkind rfl rfl).2 ⟨hempty, of_decide_eq_true hne, ?_⟩
      simp only [ofMembers, htext, ← hsecondary hmeta]
      rfl

end Entity

/-! ## Users -/

/-- The texts of a user in the older form, as attributes. -/
def userTexts (ms : List (String × Json)) : List (String × AttributeValue) :=
  userTextFields.filterMap fun field =>
    ((SortedMap.lookup field ms).bind Json.text?).map fun s => (field, .string s)

/-- The members of the object of custom attributes of a user in the older form. -/
def customMembers (ms : List (String × Json)) : List (String × Json) :=
  ((SortedMap.lookup "custom" ms).bind Json.members?).getD []

/-- The custom attributes of a user in the older form, without those whose names are taken. -/
def userCustom (ms : List (String × Json)) : List (String × AttributeValue) :=
  ((customMembers ms).filter fun m => !userReservedNames.contains m.1).map
    fun m => (m.1, .ofJson m.2)

/-- All attributes that are set for a user in the older form. -/
def userExtras (ms : List (String × Json)) : List (String × AttributeValue) :=
  userTexts ms ++ userCustom ms

theorem not_mem_of_mem_userExtras {ms : List (String × Json)} :
    ∀ a ∈ userExtras ms, a.1 ∉ ["kind", "key", "name", "anonymous"] := by
  intro a ha
  rcases List.mem_append.1 ha with ha | ha
  · obtain ⟨field, hfield, ha⟩ := List.mem_filterMap.1 ha
    obtain ⟨s, -, rfl⟩ := Option.map_eq_some_iff.1 ha
    have hfields : ∀ field ∈ userTextFields, field ∉ ["kind", "key", "name", "anonymous"] := by
      decide
    exact hfields field hfield
  · obtain ⟨m, hm, rfl⟩ := List.mem_map.1 ha
    have hname : m.1 ∉ userReservedNames := by simpa using (List.mem_filter.1 hm).2
    simp only [userReservedNames, List.mem_cons, not_or] at hname
    simp [hname]

namespace Entity

/-- The user that the members of an object in the older form make. -/
def ofUserMembers (ms : List (String × Json)) : Entity where
  kind := .user
  key := ((SortedMap.lookup "key" ms).bind Json.text?).getD ""
  name := (SortedMap.lookup "name" ms).bind Json.text?
  anonymous := ((SortedMap.lookup "anonymous" ms).bind Json.truth?).getD false
  secondary := (SortedMap.lookup "secondary" ms).bind Json.text?
  attributes := SortedMap.empty.assignAll
    ((userExtras ms).filter fun a => a.1 ≠ "" && a.1 ≠ "_meta")

/-- Setting the texts and then the custom attributes. -/
theorem foldl_set_userExtras (b : ContextBuilder) (ms : List (String × Json)) :
    ((((SortedMap.lookup "custom" ms).bind Json.members?).getD []).filter
        fun m => !userReservedNames.contains m.1).foldl
      (fun b m => b.set m.1 (.ofJson m.2))
      ((userTextFields.map fun field => (field, (SortedMap.lookup field ms).bind Json.text?)).foldl
        (fun b text => text.2.elim b fun s => b.set text.1 (.string s)) b) =
      b.assignAll ((userExtras ms).filter fun a => a.1 ≠ "" && a.1 ≠ "_meta") := by
  rw [← ContextBuilder.foldl_set not_mem_of_mem_userExtras, userExtras, List.foldl_append,
    userCustom, customMembers, List.foldl_map, userTexts, List.foldl_filterMap, List.foldl_map]
  congr 2
  funext b field
  cases (SortedMap.lookup field ms).bind Json.text? <;> rfl

theorem all_userTexts_iff (p : String → Bool) :
    (["secondary", "name", "ip", "email", "firstName", "lastName", "avatar", "country"].all p) =
        true ↔
      p "name" = true ∧ p "secondary" = true ∧ userTextFields.all p = true := by
  simp only [userTextFields, List.all_cons, List.all_nil, Bool.and_true, Bool.and_eq_true]
  grind

/-- **Reading a user** in the older form gives the one that its members make, if they make one. -/
theorem ofUser_eq_ok_iff {j : Json} {e : Entity} :
    ofUser j = .ok e ↔ ∃ ms, j = .object ms ∧ Json.isUser ms = true ∧ e = ofUserMembers ms := by
  have htext : ∀ (ms : List (String × Json)) (field : String) (text : String × Option String),
      (do return (field, ← Decode.optionalField ms field Decode.string)) = Except.ok text ↔
        (SortedMap.lookup field ms).all Json.isTextOrNull = true ∧
          text = (field, (SortedMap.lookup field ms).bind Json.text?) := by
    intro ms field text
    simp only [Decode.bind_eq_ok_iff, Decode.optionalField_eq_ok_iff Decode.reads_string rfl]
    constructor
    · rintro ⟨_, ⟨htext, rfl⟩, ⟨⟩⟩
      exact ⟨htext, rfl⟩
    · rintro ⟨htext, rfl⟩
      exact ⟨_, ⟨htext, rfl⟩, rfl⟩
  unfold ofUser
  simp only [Decode.bind_eq_ok_iff, Decode.reads_members _ _, Json.members?_eq_some_iff,
    Decode.require_eq_ok_iff, Decode.field_eq_ok_iff Decode.reads_string,
    Decode.optionalField_eq_ok_iff Decode.reads_string rfl,
    Decode.optionalField_eq_ok_iff Decode.reads_bool rfl,
    Decode.optionalField_eq_ok_iff Decode.reads_members rfl,
    Decode.mapM_eq_ok_iff (htext _)]
  refine exists_congr fun ms => and_congr_right fun _ => ?_
  simp only [Json.isUser, Bool.and_eq_true, all_userTexts_iff]
  constructor
  · rintro ⟨anonymous, ⟨hanonymous, rfl⟩, custom, ⟨hcustom, rfl⟩, text, ⟨-, rfl⟩, name,
      ⟨hname, rfl⟩, secondary, ⟨hsecondary, rfl⟩, texts, ⟨htexts, rfl⟩, key, hkey, hb⟩
    rw [foldl_set_userExtras, ContextBuilder.entity_of_kind (b := ContextBuilder.assignAll _ _)
      (show Kind.user.name = _ from rfl) (Or.inr rfl)] at hb
    cases hb
    refine ⟨⟨⟨⟨by rw [hkey]; rfl, hname, hsecondary, htexts⟩, hanonymous⟩, hcustom⟩, ?_⟩
    simp only [ofUserMembers, hkey]
    rfl
  · rintro ⟨⟨⟨⟨hkey, hname, hsecondary, htexts⟩, hanonymous⟩, hcustom⟩, rfl⟩
    obtain ⟨key, hkey⟩ := Option.isSome_iff_exists.1 hkey
    refine ⟨_, ⟨hanonymous, rfl⟩, _, ⟨hcustom, rfl⟩, _,
      ⟨Decode.all_isSome_of_bind_eq_some hkey, rfl⟩, _, ⟨hname, rfl⟩, _, ⟨hsecondary, rfl⟩, _,
      ⟨htexts, rfl⟩, key, hkey, ?_⟩
    rw [foldl_set_userExtras, ContextBuilder.entity_of_kind (b := ContextBuilder.assignAll _ _)
      (show Kind.user.name = _ from rfl) (Or.inr rfl)]
    simp only [ofUserMembers, hkey]
    rfl

end Entity

end FeatureFlags
