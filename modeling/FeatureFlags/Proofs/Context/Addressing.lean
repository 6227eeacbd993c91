import FeatureFlags.Context.Basic
import FeatureFlags.Proofs.Attribute.Escaping

/-!
# What references lead to

A path names an attribute and then members of objects, each inside the one before.  Following it is
a walk into a value, and a walk has two ways to end: at the value behind the last name, or at a name
that the value reached so far does not have, because the name is missing or because the value is no
object.  An array has no names, so nothing inside of one can be reached.

The names may be any texts that are not empty.  That a name with slashes or tildes is found under
its escaped form, and that no other path leads to it, is a matter of escaping alone.  Where built-in
and custom attributes have the same name, the built-in one is meant.

## What is here

* `AttributeValue.Leads`, `AttributeValue.Stops`: the two ways in which a walk ends.
* `Entity.HasAttribute`: the attributes, built in and custom.
* `Context.value?_addressed`: what the references to a context lead to.
-/

set_option autoImplicit false

namespace FeatureFlags

/-! ## Walks into a value -/

namespace AttributeValue

/-- The names, one inside the other, lead from a value to another one. -/
inductive Leads : List String → AttributeValue → AttributeValue → Prop
  | here (v : AttributeValue) : Leads [] v v
  | inside {name : String} {rest : List String} {members : List (String × AttributeValue)}
      {u v : AttributeValue} (hu : SortedMap.lookup name members = some u) (h : Leads rest u v) :
      Leads (name :: rest) (object members) v

/-- Some value on the way is no object, or has no member of the name that comes next. -/
inductive Stops : List String → AttributeValue → Prop
  | noObject {name : String} {rest : List String} {v : AttributeValue}
      (h : ∀ members, v ≠ object members) : Stops (name :: rest) v
  | missing {name : String} {rest : List String} {members : List (String × AttributeValue)}
      (h : SortedMap.lookup name members = none) : Stops (name :: rest) (object members)
  | inside {name : String} {rest : List String} {members : List (String × AttributeValue)}
      {u : AttributeValue} (hu : SortedMap.lookup name members = some u) (h : Stops rest u) :
      Stops (name :: rest) (object members)

variable {names : List String} {name : String} {u v : AttributeValue}

theorem find?_eq_some_iff :
    v.find? name = some u ↔
      ∃ members, v = object members ∧ SortedMap.lookup name members = some u := by
  cases v <;> simp [find?]

theorem descend?_eq_some_iff : descend? names u = some v ↔ Leads names u v := by
  induction names generalizing u with
  | nil =>
    constructor
    · rintro ⟨⟩
      exact .here v
    · rintro ⟨⟩
      rfl
  | cons name rest ih =>
    simp only [descend?, Option.bind_eq_some_iff, find?_eq_some_iff, ih]
    constructor
    · rintro ⟨w, ⟨members, rfl, hw⟩, h⟩
      exact .inside hw h
    · rintro (_ | ⟨hw, h⟩)
      exact ⟨_, ⟨_, rfl, hw⟩, h⟩

/-- A walk that leads nowhere has stopped on the way. -/
theorem descend?_eq_none_iff : descend? names u = none ↔ Stops names u := by
  induction names generalizing u with
  | nil => exact iff_of_false nofun nofun
  | cons name rest ih =>
    simp only [descend?, Option.bind_eq_none_iff, ih]
    constructor
    · intro h
      cases hw : u.find? name with
      | some w =>
        obtain ⟨members, rfl, hlookup⟩ := find?_eq_some_iff.1 hw
        exact .inside hlookup (h w hw)
      | none =>
        cases u with
        | object members => exact .missing hw
        | _ => exact .noObject nofun
    · intro h w hw
      obtain ⟨members, rfl, hlookup⟩ := find?_eq_some_iff.1 hw
      cases h with
      | noObject hnone => exact absurd rfl (hnone members)
      | missing hmissing => rw [hmissing] at hlookup; cases hlookup
      | inside hu h =>
        rw [hu] at hlookup
        cases hlookup
        exact h

end AttributeValue

/-! ## Attributes -/

namespace Entity

/-- The entity has an attribute: a built-in one, or a custom one that has none of their names. -/
inductive HasAttribute (e : Entity) : String → AttributeValue → Prop
  | kind : HasAttribute e "kind" (.string e.kind.name)
  | key : HasAttribute e "key" (.string e.key)
  | name {name : String} (h : e.name = some name) : HasAttribute e "name" (.string name)
  | anonymous : HasAttribute e "anonymous" (.bool e.anonymous)
  | custom {name : String} {v : AttributeValue}
      (hname : name ∉ ["kind", "key", "name", "anonymous"])
      (h : e.attributes.find? name = some v) : HasAttribute e name v

variable {e : Entity} {name : String} {v : AttributeValue}

theorem attribute?_of_custom (h : name ∉ ["kind", "key", "name", "anonymous"]) :
    e.attribute? name = e.attributes.find? name := by
  simp only [List.mem_cons, List.not_mem_nil, or_false, not_or] at h
  rw [attribute?.eq_5 e name h.1 h.2.1 h.2.2.1 h.2.2.2]

theorem attribute?_eq_some_iff : e.attribute? name = some v ↔ e.HasAttribute name v := by
  constructor
  · intro h
    by_cases hname : name ∈ ["kind", "key", "name", "anonymous"]
    · simp only [List.mem_cons, List.not_mem_nil, or_false] at hname
      rcases hname with rfl | rfl | rfl | rfl
      · cases h
        exact .kind
      · cases h
        exact .key
      · obtain ⟨name, hname, rfl⟩ := Option.map_eq_some_iff.1 h
        exact .name hname
      · cases h
        exact .anonymous
    · exact .custom hname (attribute?_of_custom hname ▸ h)
  · intro h
    cases h with
    | kind => rfl
    | key => rfl
    | name h => exact Option.map_eq_some_iff.2 ⟨_, h, rfl⟩
    | anonymous => rfl
    | custom hname h => rw [attribute?_of_custom hname, h]

theorem attribute?_eq_none_iff : e.attribute? name = none ↔ ∀ v, ¬ e.HasAttribute name v := by
  simp only [Option.eq_none_iff_forall_ne_some, ne_eq, attribute?_eq_some_iff]

variable {r : Reference} {rest : List String}

theorem value?_of_path (hpath : r.path = .ok (name :: rest)) :
    e.value? r = (e.attribute? name).bind (AttributeValue.descend? rest) := by
  rw [value?, Reference.components, hpath]

theorem value?_eq_some_iff (hpath : r.path = .ok (name :: rest)) :
    e.value? r = some v ↔ ∃ u, e.HasAttribute name u ∧ AttributeValue.Leads rest u v := by
  simp only [value?_of_path hpath, Option.bind_eq_some_iff, attribute?_eq_some_iff,
    AttributeValue.descend?_eq_some_iff]

theorem value?_eq_none_iff (hpath : r.path = .ok (name :: rest)) :
    e.value? r = none ↔
      (∀ u, ¬ e.HasAttribute name u) ∨
        ∃ u, e.HasAttribute name u ∧ AttributeValue.Stops rest u := by
  rw [value?_of_path hpath, ← attribute?_eq_none_iff]
  simp only [← attribute?_eq_some_iff, ← AttributeValue.descend?_eq_none_iff]
  cases e.attribute? name <;> simp

end Entity

/-! ## References to a context -/

namespace Context

/-- **What references lead to.**  A path of names that are not empty leads into an entity to the
value behind its last name, just if there is an attribute of the first name and the others are those
of members, each inside the one before; it leads nowhere just if the attribute is missing or the
walk stops on the way.  A name that is no path leads to the same as the path of that name alone.
Of several entities nothing but the common kind is reached. -/
theorem value?_addressed :
    (∀ (e : Entity) (name : String) (rest : List String), name ≠ "" → (∀ n ∈ rest, n ≠ "") →
      (∀ v, (single e).value? (.ofPath (name :: rest)) = some v ↔
        ∃ u, e.HasAttribute name u ∧ AttributeValue.Leads rest u v) ∧
      ((single e).value? (.ofPath (name :: rest)) = none ↔
        (∀ u, ¬ e.HasAttribute name u) ∨
          ∃ u, e.HasAttribute name u ∧ AttributeValue.Stops rest u)) ∧
    (∀ (c : Context) (name : String), name ≠ "" → name.toList.head? ≠ some '/' →
      c.value? ⟨name⟩ = c.value? (.ofPath [name])) ∧
    ∀ (members : List Entity) (r : Reference), (multi members).value? r =
      if r.text = "kind" ∨ r.text = "/kind" then some (.string multiKindName) else none := by
  refine ⟨fun e name rest hname hrest => ?_, fun c name hname hhead => ?_, fun members r => ?_⟩
  · have hpath : (Reference.ofPath (name :: rest)).path = .ok (name :: rest) :=
      Reference.path_ofPath (List.cons_ne_nil name rest) (List.forall_mem_cons.2 ⟨hname, hrest⟩)
    exact ⟨fun v => Entity.value?_eq_some_iff hpath, Entity.value?_eq_none_iff hpath⟩
  · have hplain : (⟨name⟩ : Reference).path = .ok [name] := Reference.path_name hname hhead
    have hpath : (Reference.ofPath [name]).path = .ok [name] :=
      Reference.path_ofPath (List.cons_ne_nil name []) (by simpa using hname)
    cases c with
    | single e =>
      rw [value?, value?, Entity.value?_of_path hplain, Entity.value?_of_path hpath]
    | multi members =>
      rw [value?, value?, Reference.isKind, Reference.isKind, Reference.components,
        Reference.components, hplain, hpath]
  · rw [value?]
    simp only [Reference.isKind_iff]

/-- A user whose address has a street with a slash in its name, and who has moved. -/
def mover : Entity where
  kind := .user
  key := "u"
  name := none
  anonymous := false
  secondary := none
  attributes := SortedMap.empty.insert "home/now" (.object [
    ("street~1", .object [("number", .string "7")]), ("towns", .array [.string "Westview"])])

/-- A vehicle with the same address. -/
def van : Entity := { mover with kind := ⟨"vehicle", by decide⟩, key := "v" }

/-- Paths into an address: one that leads to a value behind awkward names, one that stops at an
array, one that misses an attribute, and a name with a slash that is no path.  The mover and the van
together have a kind, but no key. -/
theorem value?_addressed_mover :
    (single mover).value? ⟨"/home~1now/street~01/number"⟩ = some (.string "7") ∧
      (single mover).value? ⟨"/home~1now/towns/0"⟩ = none ∧
      (single mover).value? ⟨"/name"⟩ = none ∧
      (single mover).value? ⟨"home/now"⟩ = (single mover).value? ⟨"/home~1now"⟩ ∧
      (multi [mover, van]).value? ⟨"kind"⟩ = some (.string multiKindName) ∧
      (multi [mover, van]).value? ⟨"key"⟩ = none := by
  obtain ⟨hpaths, hnames, hmulti⟩ := value?_addressed
  have hhome : mover.HasAttribute "home/now" (.object [
      ("street~1", .object [("number", .string "7")]), ("towns", .array [.string "Westview"])]) :=
    .custom (by decide) rfl
  refine ⟨?_, ?_, ?_, ?_, ?_, ?_⟩
  · refine ((hpaths mover "home/now" ["street~1", "number"] (by decide) (by decide)).1 _).2 ?_
    exact ⟨_, hhome, .inside rfl (.inside rfl (.here _))⟩
  · refine (hpaths mover "home/now" ["towns", "0"] (by decide) (by decide)).2.2 (Or.inr ?_)
    exact ⟨_, hhome, .inside rfl (.noObject nofun)⟩
  · refine (hpaths mover "name" [] (by decide) (by decide)).2.2 (Or.inl ?_)
    exact Entity.attribute?_eq_none_iff.1 rfl
  · exact hnames (single mover) "home/now" (by decide) (by decide)
  · rw [hmulti [mover, van] ⟨"kind"⟩, if_pos (Or.inl rfl)]
  · rw [hmulti [mover, van] ⟨"key"⟩, if_neg (by decide)]

end Context

end FeatureFlags
