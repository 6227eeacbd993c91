import FeatureFlags.Flag.Basic
import FeatureFlags.Proofs.Json.Fields

/-!
# Which values are outcomes of which form

Every JSON value is an outcome.  It is tried as a fixed variation first, then as a rollout, and
what is neither is kept as it is.  A value that comes close to a rollout, with one wrong field in
one of its entries, is therefore none, and one with a wrong variation may still be a rollout.  So a
form is described by all of its fields at once, each with the values it may have and with what it
stands for.

A rule is read together with its outcome from one object.  The fields of its own are taken out
first, and whatever the others are, they make some outcome; so these can neither make reading fail
nor have a part in the rest of the rule.

## What is here

* `Json.IsIndex`, `Rollout.Matches`: the forms, by what the members of an object say.
* `Outcome.IsRead`: the outcome of a value, by its form.
* `FlagRule.ofJson_eq_own`: a rule is read from its own fields, and its outcome from the others.
* `Outcome.isRead_ofJson`: the theorem.
-/

set_option autoImplicit false

namespace FeatureFlags

/-- The nearest `Single`. -/
def Json.Number.toSingle : Number → Single
  | integer n => Binary.ofInt n
  | float x => x.convert

/-! ## Forms -/

/-- The value is an object with a variation: a whole number of 64 bits without sign. -/
def Json.IsIndex (j : Json) (n : Nat) : Prop :=
  j.find? "variation" = some (.nat n) ∧ n < naturalBound

/-- The members of an object say what an entry of a rollout is. -/
structure WeightedVariation.Matches (ms : List (String × Json)) (e : WeightedVariation) : Prop where
  variation : SortedMap.lookup "variation" ms = some (.nat e.variation) ∧
    e.variation < Json.naturalBound
  weight : ∃ n : Json.Number, SortedMap.lookup "weight" ms = some (.number n) ∧
    e.weight = n.toSingle
  untracked : SortedMap.lookup "untracked" ms = none ∧ e.untracked = false ∨
    SortedMap.lookup "untracked" ms = some (.bool e.untracked)

/-- The members of an object say what a rollout is. -/
structure Rollout.Matches (ms : List (String × Json)) (r : Rollout) : Prop where
  kind : SortedMap.lookup "kind" ms = none ∧ r.isExperiment = false ∨
    SortedMap.lookup "kind" ms = some (.string (if r.isExperiment then "experiment" else "rollout"))
  contextKind : Json.isUnset "contextKind" ms = true ∧ r.contextKind = .user ∨
    SortedMap.lookup "contextKind" ms = some (.string r.contextKind.name)
  /-- With a context kind the name is a path, and without one it is the name of an attribute. -/
  bucketBy : Json.isUnset "bucketBy" ms = true ∧ r.bucketBy = none ∨
    ∃ name, SortedMap.lookup "bucketBy" ms = some (.string name) ∧
      r.bucketBy = some (if Json.isUnset "contextKind" ms then .ofName name else ⟨name⟩)
  seed : Json.isUnset "seed" ms = true ∧ r.seed = none ∨
    ∃ n, SortedMap.lookup "seed" ms = some (.integer n) ∧ -Json.integerBound ≤ n ∧
      n < Json.integerBound ∧ r.seed = some n
  variations : ∃ items, SortedMap.lookup "variations" ms = some (.array items) ∧
    List.Forall₂ (fun j e => ∃ entry, j = .object entry ∧ e.Matches entry) items r.variations

/-- The value is an object with a rollout. -/
def Json.IsRollout (j : Json) (r : Rollout) : Prop :=
  ∃ ms, j.find? "rollout" = some (.object ms) ∧ r.Matches ms

/-- The value is no array where the object of a rollout is expected, and neither are its entries;
its kind is no object. -/
structure Json.IsPlain (value : Json) : Prop where
  noList : ∀ items, value ≠ .array items
  kind : ∀ members, value.find? "kind" ≠ some (.object members)
  entry : ∀ items, value.find? "variations" = some (.array items) → ∀ fields, .array fields ∉ items

/-- What outcome a value is: a fixed variation if it has one, or else a rollout if it has one, or
else it is kept. -/
structure Outcome.IsRead (j : Json) (o : Outcome) : Prop where
  fixed : ∀ n, o = .fixed n ↔ j.IsIndex n
  rollout : ∀ r, o = .rollout r ↔ (∀ n, ¬ j.IsIndex n) ∧ j.IsRollout r
  malformed : ∀ data, o = .malformed data ↔
    data = j ∧ (∀ n, ¬ j.IsIndex n) ∧ ∀ r, ¬ j.IsRollout r

/-! ## Entries -/

theorem Decode.single_eq_ok_iff {j : Json} {x : Single} :
    Decode.single j = .ok x ↔ ∃ n : Json.Number, j = .number n ∧ x = n.toSingle := by
  cases j with
  | number n => cases n <;> simp [single, Json.Number.toSingle, eq_comm]
  | _ => simp [single]

variable {ms : List (String × Json)}

namespace WeightedVariation

theorem ofJson_object_eq_ok_iff {e : WeightedVariation} :
    WeightedVariation.ofJson (.object ms) = .ok e ↔ e.Matches ms := by
  simp only [ofJson, Decode.bind_eq_ok_iff, Decode.fields, Decode.require_eq_ok_iff,
    Decode.fieldOr_eq_ok_cases, Decode.reads_bool _ _, Json.truth?_eq_some_iff]
  constructor
  · rintro ⟨_, ⟨⟩, untracked, huntracked, _, hvariation, _, hweight, variation, rfl, weight, rfl,
      ⟨⟩⟩
    obtain ⟨j, hj, hnat⟩ := Decode.field_eq_ok_some_iff.1 hvariation
    obtain ⟨rfl, hlt⟩ := Decode.natural_eq_ok_iff.1 hnat
    obtain ⟨j', hj', hsingle⟩ := Decode.field_eq_ok_some_iff.1 hweight
    obtain ⟨n, rfl, rfl⟩ := Decode.single_eq_ok_iff.1 hsingle
    refine ⟨⟨hj, hlt⟩, ⟨n, hj', rfl⟩, ?_⟩
    rcases huntracked with hdefault | ⟨_, hbool, rfl⟩
    · exact .inl hdefault
    · exact .inr hbool
  · rintro ⟨⟨hvariation, hlt⟩, ⟨n, hweight, hn⟩, huntracked⟩
    refine ⟨ms, rfl, e.untracked, ?_, some e.variation, ?_, some e.weight, ?_, e.variation, rfl,
      e.weight, rfl, rfl⟩
    · exact huntracked.imp_right fun hbool => ⟨_, hbool, rfl⟩
    · exact Decode.field_eq_ok_some_iff.2 ⟨_, hvariation, Decode.natural_eq_ok_iff.2 ⟨rfl, hlt⟩⟩
    · exact Decode.field_eq_ok_some_iff.2 ⟨_, hweight, Decode.single_eq_ok_iff.2 ⟨n, rfl, hn⟩⟩

theorem ofJson_eq_ok_iff {j : Json} (hj : ∀ items, j ≠ .array items) {e : WeightedVariation} :
    WeightedVariation.ofJson j = .ok e ↔ ∃ entry, j = .object entry ∧ e.Matches entry := by
  cases j with
  | object entry => simp [ofJson_object_eq_ok_iff]
  | array items => exact absurd rfl (hj items)
  | _ => simp [ofJson, Decode.bind_eq_ok_iff, Decode.fields]

end WeightedVariation

/-! ## Rollouts -/

namespace Rollout

theorem named_eq_ok_iff {j : Json} (hj : ∀ members, j ≠ .object members) {b : Bool} :
    Decode.named experimentOfName? j = .ok b ↔
      j = .string (if b then "experiment" else "rollout") := by
  cases j with
  | string name =>
    simp only [Decode.named, Json.string.injEq, experimentOfName?]
    split <;> cases b <;> simp_all
  | object members => exact absurd rfl (hj members)
  | _ => simp [Decode.named]

theorem kind_eq_ok_iff (hkind : ∀ members, SortedMap.lookup "kind" ms ≠ some (.object members))
    {b : Bool} :
    Decode.fieldOr ms "kind" false (Decode.named experimentOfName?) = .ok b ↔
      SortedMap.lookup "kind" ms = none ∧ b = false ∨
        SortedMap.lookup "kind" ms = some (.string (if b then "experiment" else "rollout")) := by
  rw [Decode.fieldOr_eq_ok_cases]
  refine or_congr_right ⟨?_, fun hname => ⟨_, hname, (named_eq_ok_iff (by simp)).2 rfl⟩⟩
  rintro ⟨j, hj, hnamed⟩
  rw [hj, (named_eq_ok_iff fun members heq => hkind members (heq ▸ hj)).1 hnamed]

theorem seed_eq_ok_iff {seed : Option Int} :
    Decode.optionalField ms "seed" Decode.integer = .ok seed ↔
      Json.isUnset "seed" ms = true ∧ seed = none ∨
        ∃ n, SortedMap.lookup "seed" ms = some (.integer n) ∧ -Json.integerBound ≤ n ∧
          n < Json.integerBound ∧ seed = some n := by
  rw [Decode.optionalField_eq_ok_cases (by simp [Decode.integer])]
  simp [Decode.integer_eq_ok_iff, and_assoc]

/-- A field that may be null and otherwise is a text. -/
theorem textField_eq_ok_iff {α : Type} {d : Decoder α} {text : α → String}
    (hd : ∀ j a, d j = .ok a ↔ j = .string (text a)) {name : String} {v : Option α} :
    Decode.optionalField ms name d = .ok v ↔
      Json.isUnset name ms = true ∧ v = none ∨
        ∃ a, SortedMap.lookup name ms = some (.string (text a)) ∧ v = some a := by
  rw [Decode.optionalField_eq_ok_cases (by simp [hd])]
  simp [hd]

theorem contextKind_eq_ok_iff {kind : Kind} :
    (∃ kind?, Decode.optionalField ms "contextKind" Decode.kind = .ok kind? ∧
      kind = kind?.getD .user) ↔
    Json.isUnset "contextKind" ms = true ∧ kind = .user ∨
      SortedMap.lookup "contextKind" ms = some (.string kind.name) := by
  simp only [textField_eq_ok_iff fun j a => Decode.kind_eq_ok_iff]
  constructor
  · rintro ⟨_, ⟨hunset, rfl⟩ | ⟨kind, hgiven, rfl⟩, rfl⟩
    · exact .inl ⟨hunset, rfl⟩
    · exact .inr hgiven
  · rintro (⟨hunset, rfl⟩ | hgiven)
    · exact ⟨none, .inl ⟨hunset, rfl⟩, rfl⟩
    · exact ⟨some kind, .inr ⟨kind, hgiven, rfl⟩, rfl⟩

/-- A context kind has been read just if it is given. -/
theorem isSome_contextKind {kind? : Option Kind}
    (h : Decode.optionalField ms "contextKind" Decode.kind = .ok kind?) :
    kind?.isSome = !Json.isUnset "contextKind" ms := by
  rcases (textField_eq_ok_iff fun j a => Decode.kind_eq_ok_iff).1 h with
    ⟨hunset, rfl⟩ | ⟨kind, hgiven, rfl⟩
  · rw [hunset]
    rfl
  · rw [Json.isUnset, hgiven]
    rfl

theorem bucketBy_eq_ok_iff {isUnset : Bool} {reference : Option Reference} :
    (∃ name?, Decode.optionalField ms "bucketBy" Decode.string = .ok name? ∧
      reference = name?.map fun name => .ofFlagData name !isUnset) ↔
    Json.isUnset "bucketBy" ms = true ∧ reference = none ∨
      ∃ name, SortedMap.lookup "bucketBy" ms = some (.string name) ∧
        reference = some (if isUnset then .ofName name else ⟨name⟩) := by
  have hread : ∀ name, Reference.ofFlagData name (!isUnset) =
      if isUnset then .ofName name else ⟨name⟩ := fun name => by cases isUnset <;> rfl
  simp only [textField_eq_ok_iff fun j a => Decode.string_eq_ok_iff, hread]
  constructor
  · rintro ⟨_, ⟨hunset, rfl⟩ | ⟨name, hname, rfl⟩, rfl⟩
    · exact .inl ⟨hunset, rfl⟩
    · exact .inr ⟨name, hname, rfl⟩
  · rintro (⟨hunset, rfl⟩ | ⟨name, hname, rfl⟩)
    · exact ⟨none, .inl ⟨hunset, rfl⟩, rfl⟩
    · exact ⟨some name, .inr ⟨name, hname, rfl⟩, rfl⟩

theorem variations_eq_ok_iff (hentry : ∀ items, SortedMap.lookup "variations" ms =
      some (.array items) → ∀ fields, .array fields ∉ items) {es : List WeightedVariation} :
    Decode.field ms "variations" (Decode.list WeightedVariation.ofJson) = .ok (some es) ↔
      ∃ items, SortedMap.lookup "variations" ms = some (.array items) ∧
        List.Forall₂ (fun j e => ∃ entry, j = .object entry ∧ e.Matches entry) items es := by
  have hread : ∀ items, SortedMap.lookup "variations" ms = some (.array items) → ∀ j ∈ items,
      ∀ e, WeightedVariation.ofJson j = .ok e ↔ ∃ entry, j = .object entry ∧ e.Matches entry :=
    fun items hitems j hj e => WeightedVariation.ofJson_eq_ok_iff fun fields heq =>
      hentry items hitems fields (heq ▸ hj)
  rw [Decode.field_eq_ok_some_iff]
  constructor
  · rintro ⟨j, hj, hlist⟩
    cases j with
    | array items =>
      exact ⟨items, hj, (Decode.mapM_eq_ok_iff_forall₂ (hread items hj)).1 hlist⟩
    | _ => cases hlist
  · rintro ⟨items, hj, hentries⟩
    exact ⟨_, hj, (Decode.mapM_eq_ok_iff_forall₂ (hread items hj)).2 hentries⟩

theorem ofJson_object_eq_ok_iff (hms : (Json.object ms).IsPlain) {r : Rollout} :
    Rollout.ofJson (.object ms) = .ok r ↔ r.Matches ms := by
  simp only [ofJson, Decode.bind_eq_ok_iff, Decode.fields, Decode.require_eq_ok_iff]
  constructor
  · rintro ⟨_, ⟨⟩, name?, hname, kind?, hgiven, _, hexperiment, _, hseed, _, hvariations, _, rfl,
      ⟨⟩⟩
    refine ⟨(kind_eq_ok_iff hms.kind).1 hexperiment, contextKind_eq_ok_iff.1 ⟨kind?, hgiven, rfl⟩,
      bucketBy_eq_ok_iff.1 ⟨name?, hname, ?_⟩, seed_eq_ok_iff.1 hseed,
      (variations_eq_ok_iff hms.entry).1 hvariations⟩
    rw [← isSome_contextKind hgiven]
  · rintro ⟨hexperiment, hcontextKind, hbucketBy, hseed, hvariations⟩
    obtain ⟨kind?, hgiven, hdefault⟩ := contextKind_eq_ok_iff.2 hcontextKind
    obtain ⟨name?, hname, hreference⟩ := bucketBy_eq_ok_iff.2 hbucketBy
    refine ⟨ms, rfl, name?, hname, kind?, hgiven, r.isExperiment,
      (kind_eq_ok_iff hms.kind).2 hexperiment, r.seed, seed_eq_ok_iff.2 hseed, some r.variations,
      (variations_eq_ok_iff hms.entry).2 hvariations, r.variations, rfl, ?_⟩
    rw [isSome_contextKind hgiven, ← hdefault, ← hreference]
    rfl

theorem ofJson_eq_ok_iff {value : Json} (hvalue : value.IsPlain) {r : Rollout} :
    Rollout.ofJson value = .ok r ↔ ∃ ms, value = .object ms ∧ r.Matches ms := by
  cases value with
  | object ms => simp [ofJson_object_eq_ok_iff hvalue]
  | array items => exact absurd rfl (hvalue.noList items)
  | _ => simp [ofJson, Decode.bind_eq_ok_iff, Decode.fields]

end Rollout

/-! ## Outcomes -/

namespace Outcome

variable {j : Json}

/-- A variation is looked for among the members of an object. -/
theorem index_eq_some_iff {n : Nat} :
    (j.find? "variation").map Decode.natural = some (.ok n) ↔ j.IsIndex n := by
  simp only [Option.map_eq_some_iff, Decode.natural_eq_ok_iff, Json.IsIndex]
  constructor
  · rintro ⟨_, hfind, rfl, hlt⟩
    exact ⟨hfind, hlt⟩
  · rintro ⟨hfind, hlt⟩
    exact ⟨_, hfind, rfl, hlt⟩

theorem rollout_eq_some_iff (hj : ∀ value ∈ j.find? "rollout", value.IsPlain) {r : Rollout} :
    (j.find? "rollout").map Rollout.ofJson = some (.ok r) ↔ j.IsRollout r := by
  rw [Option.map_eq_some_iff, Json.IsRollout]
  constructor
  · rintro ⟨value, hfind, hread⟩
    obtain ⟨ms, rfl, hmatches⟩ := (Rollout.ofJson_eq_ok_iff (hj value hfind)).1 hread
    exact ⟨ms, hfind, hmatches⟩
  · rintro ⟨ms, hfind, hmatches⟩
    exact ⟨_, hfind, (Rollout.ofJson_eq_ok_iff (hj _ hfind)).2 ⟨ms, rfl, hmatches⟩⟩

/-- **Every value is read as the outcome of its form.** -/
theorem isRead_of_isPlain (hj : ∀ value ∈ j.find? "rollout", value.IsPlain) :
    (ofJson j).IsRead j := by
  have hindex := fun n => index_eq_some_iff (j := j) (n := n)
  have hrollout := fun r => rollout_eq_some_iff hj (r := r)
  rw [ofJson]
  generalize (j.find? "variation").map Decode.natural = variation? at hindex ⊢
  generalize (j.find? "rollout").map Rollout.ofJson = rollout? at hrollout ⊢
  split
  · next n =>
    have hn : j.IsIndex n := (hindex n).1 rfl
    refine ⟨fun m => ?_, fun r => iff_of_false nofun fun h => h.1 n hn,
      fun data => iff_of_false nofun fun h => h.2.1 n hn⟩
    simp [← hindex]
  · next r hne =>
    have hnone : ∀ n, ¬ j.IsIndex n := fun n hn => hne n ((hindex n).2 hn)
    have hr : j.IsRollout r := (hrollout r).1 rfl
    refine ⟨fun n => iff_of_false nofun (hnone n), fun r' => ?_,
      fun data => iff_of_false nofun fun h => h.2.2 r hr⟩
    simp [hnone, ← hrollout]
  · next hne hne' =>
    have hnone : ∀ n, ¬ j.IsIndex n := fun n hn => hne n ((hindex n).2 hn)
    have hneither : ∀ r, ¬ j.IsRollout r := fun r hr => hne' r ((hrollout r).2 hr)
    refine ⟨fun n => iff_of_false nofun (hnone n), fun r => iff_of_false nofun fun h =>
      hneither r h.2, fun data => ?_⟩
    simp [hnone, hneither, eq_comm]

end Outcome

/-! ## Rules -/

namespace FlagRule

/-- The fields of a rule itself. -/
def own (ms : List (String × Json)) : List (String × Json) :=
  ms.filter fun m => ownFields.contains m.1

/-- The members of which the outcome of a rule is made. -/
def others (ms : List (String × Json)) : List (String × Json) :=
  ms.filter fun m => !ownFields.contains m.1

theorem field_own {α : Type} {name : String} (h : name ∈ ownFields) (ms : List (String × Json))
    (d : Decoder α) : Decode.field (own ms) name d = Decode.field ms name d := by
  rw [Decode.field, Decode.field, own, SortedMap.lookup_filter_key,
    if_pos (List.contains_iff_mem.2 h)]

theorem ofJson_members (ms : List (String × Json)) :
    FlagRule.ofJson (.object ms) = do
      let clauses ← Decode.listField ms "clauses" Clause.ofJson
      let id ← Decode.fieldOr ms "id" "" Decode.string
      let trackEvents ← Decode.fieldOr ms "trackEvents" false Decode.bool
      return ⟨id, clauses, Outcome.ofJson (.object (others ms)), trackEvents⟩ :=
  rfl

/-- **A rule is read from its own fields, and its outcome from the others.** -/
theorem ofJson_eq_own (ms : List (String × Json)) :
    FlagRule.ofJson (.object ms) = (FlagRule.ofJson (.object (own ms))).map fun rule =>
      { rule with outcome := Outcome.ofJson (.object (others ms)) } := by
  have hclauses := field_own (by decide : "clauses" ∈ ownFields) ms
    (Decode.nullable (Decode.list Clause.ofJson))
  have hid := field_own (by decide : "id" ∈ ownFields) ms Decode.string
  have htrackEvents := field_own (by decide : "trackEvents" ∈ ownFields) ms Decode.bool
  simp only [ofJson_members, Decode.listField, Decode.optionalField, Decode.fieldOr, hclauses, hid,
    htrackEvents]
  cases Decode.field ms "clauses" (Decode.nullable (Decode.list Clause.ofJson)) with
  | error e => rfl
  | ok clauses =>
    cases Decode.field ms "id" Decode.string with
    | error e => rfl
    | ok id => cases Decode.field ms "trackEvents" Decode.bool <;> rfl

end FlagRule

/-- **Outcomes are read by their form.**  A value is a fixed variation if it is an object with a
whole number of 64 bits as its variation.  Else it is a rollout if it is an object with a rollout,
all fields of which have the values that they may have.  Else it is kept.  So it is with the outcome
of a rule, which is made of the fields that are not the rule's own; these never keep a rule from
being read. -/
theorem Outcome.isRead_ofJson :
    (∀ j : Json, (∀ value ∈ j.find? "rollout", value.IsPlain) → (Outcome.ofJson j).IsRead j) ∧
    ∀ ms : List (String × Json),
      (FlagRule.ofJson (.object ms) = (FlagRule.ofJson (.object (FlagRule.own ms))).map fun rule =>
        { rule with outcome := Outcome.ofJson (.object (FlagRule.others ms)) }) ∧
      ∀ rule, FlagRule.ofJson (.object ms) = .ok rule →
        (∀ value ∈ SortedMap.lookup "rollout" ms, value.IsPlain) →
        rule.outcome.IsRead (.object (FlagRule.others ms)) := by
  refine ⟨fun j hj => isRead_of_isPlain hj, fun ms => ⟨FlagRule.ofJson_eq_own ms,
    fun rule hrule hms => ?_⟩⟩
  have hothers : ∀ value ∈ (Json.object (FlagRule.others ms)).find? "rollout", value.IsPlain := by
    rw [Json.find?, FlagRule.others,
      SortedMap.lookup_filter_key fun name => !FlagRule.ownFields.contains name]
    exact hms
  rw [FlagRule.ofJson_eq_own] at hrule
  cases hown : FlagRule.ofJson (.object (FlagRule.own ms)) with
  | error e =>
    rw [hown] at hrule
    cases hrule
  | ok own =>
    rw [hown] at hrule
    cases hrule
    exact isRead_of_isPlain hothers

/-- A rollout over cities of organizations, and a rule whose variation is no whole number. -/
theorem Outcome.isRead_ofJson_cities :
    let cities := Json.object [("bucketBy", .string "/address/city"),
      ("contextKind", .string "org"),
      ("variations", .array [.object [("variation", .nat 1), ("weight", .nat 100000)]])]
    let fraction := Json.number (.float (Binary.ofNat 1))
    Outcome.ofJson (.object [("rollout", cities)]) = .rollout {
        isExperiment := false
        contextKind := ⟨"org", by decide⟩
        bucketBy := some ⟨"/address/city"⟩
        variations := [⟨1, Binary.ofInt 100000, false⟩]
        seed := none } ∧
      ∃ rule,
        FlagRule.ofJson (.object [("id", .string "rule"), ("variation", fraction)]) = .ok rule ∧
          rule.outcome = .malformed (.object [("variation", fraction)]) := by
  intro cities fraction
  obtain ⟨hvalue, hrule⟩ := Outcome.isRead_ofJson
  constructor
  · have hplain : ∀ value ∈ (Json.object [("rollout", cities)]).find? "rollout", value.IsPlain := by
      rintro _ ⟨⟩
      refine ⟨nofun, nofun, ?_⟩
      rintro _ ⟨⟩ fields hmem
      cases List.mem_singleton.1 hmem
    refine ((hvalue _ hplain).rollout _).2 ⟨fun n h => absurd h.1 nofun, _, rfl, ?_⟩
    have hentry : WeightedVariation.Matches [("variation", .nat 1), ("weight", .nat 100000)]
        ⟨1, Binary.ofInt 100000, false⟩ :=
      ⟨⟨rfl, by decide⟩, ⟨_, rfl, rfl⟩, .inl ⟨rfl, rfl⟩⟩
    exact {
      kind := .inl ⟨rfl, rfl⟩
      contextKind := .inr rfl
      bucketBy := .inr ⟨_, rfl, rfl⟩
      seed := .inl ⟨rfl, rfl⟩
      variations := ⟨_, rfl, .cons ⟨_, rfl, hentry⟩ .nil⟩ }
  · obtain ⟨rule, hread⟩ : ∃ rule, FlagRule.ofJson
        (.object [("id", .string "rule"), ("variation", fraction)]) = .ok rule := ⟨_, rfl⟩
    have hothers : FlagRule.others [("id", .string "rule"), ("variation", fraction)] =
        [("variation", fraction)] := rfl
    have hkept := (hrule _).2 rule hread nofun
    rw [hothers] at hkept
    refine ⟨rule, hread, (hkept.malformed _).2 ⟨rfl, fun n h => ?_, ?_⟩⟩
    · simp [Json.IsIndex, Json.find?, SortedMap.lookup, fraction, Json.nat, Json.integer] at h
    · rintro r ⟨ms, ⟨⟩, -⟩

end FeatureFlags
