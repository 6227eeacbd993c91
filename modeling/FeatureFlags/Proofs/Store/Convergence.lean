import FeatureFlags.Proofs.Nesting.Graph
import Mathlib.Data.List.Induction
import Mathlib.Data.List.Pairwise

/-!
# Updates in any order

Updates of flags and segments are delivered late, twice and out of order.  A data set takes each of
them in turn and keeps it only if it is later than what it holds.  So what it holds at a place is
the latest that has arrived there, whatever the order of arrival, and of several that are equally
late it is the first.

One update changes what is held at its own place alone, and there the later of two items remains.
Everything else is read off from this: the run by induction over the updates, and that the order
makes no difference from two updates that can change places.  Only updates for one place with one
version cannot, since the first of them remains.

A deleted item is an item with a version like any other.  It stays where it is, unless something
later arrives, and lookups pass it over.

## What is here

* `Item`, `Place`: flags and segments, and where they are filed.
* `Dataset.upsert`, `Dataset.upsertAll`: one update, and one after the other.
* `IsNewest`: the latest item of a list.
* `Dataset.held?_upsertAll_eq_some_iff`: what is held after updates.
* `Dataset.upsertAll_converges`: the theorem.
-/

set_option autoImplicit false

namespace FeatureFlags

/-! ## Maps that keep what is later -/

namespace SortedMap

variable {α : Type} {isNewer : α → α → Bool} {m : SortedMap α} {key : String} {value : α}

theorem isSome_insertNewer?_iff :
    (m.insertNewer? isNewer key value).isSome = true ↔
      ∀ old, m.find? key = some old → isNewer value old = true := by
  rw [insertNewer?]
  cases m.find? key with
  | none => simp
  | some old => by_cases h : isNewer value old = true <;> simp [h]

/-- A value is refused if what is filed under its key is not older, and replaces it otherwise. -/
theorem find?_insertNewer (key' : String) :
    ((m.insertNewer? isNewer key value).getD m).find? key' =
      if key = key' then
        some ((m.find? key').elim value fun old => if isNewer value old then value else old)
      else m.find? key' := by
  rw [insertNewer?]
  by_cases hkey : key = key'
  · subst hkey
    rw [if_pos rfl]
    cases hold : m.find? key with
    | none => simp
    | some old => by_cases h : isNewer value old = true <;> simp [h, hold]
  · rw [if_neg hkey]
    cases m.find? key with
    | none => simp [hkey]
    | some old => by_cases h : isNewer value old = true <;> simp [h, hkey]

end SortedMap

/-! ## Items and places -/

/-- A flag or a segment. -/
inductive Item where
  | flag (f : Flag)
  | segment (s : Segment)

/-- Where an item is filed: among the flags or among the segments, and under a key. -/
inductive Place where
  | flag (key : String)
  | segment (key : String)
  deriving DecidableEq

namespace Item

/-- Where an update of an item belongs. -/
def place : Item → Place
  | flag f => .flag f.key
  | segment s => .segment s.key

/-- The version of an item. -/
def version : Item → Nat
  | flag f => f.version
  | segment s => s.version

/-- Whether an item is deleted. -/
def deleted : Item → Bool
  | flag f => f.deleted
  | segment s => s.deleted

/-- The later of two items, and the first of two that are equally late. -/
def later (x y : Item) : Item := if x.version < y.version then y else x

end Item

/-- What a store answers when the item at a place is looked up. -/
def Store.item? (s : Store) : Place → Except StoreError (Option Item)
  | .flag key => (s.flag? key).map (Option.map .flag)
  | .segment key => (s.segment? key).map (Option.map .segment)

namespace Dataset

variable (d : Dataset)

/-- The item that is filed at a place, deleted or not.  It need not belong there. -/
def held? : Place → Option Item
  | .flag key => (d.flags.find? key).map .flag
  | .segment key => (d.segments.find? key).map .segment

/-- The data set with an item filed where it belongs, unless the item there is not older. -/
def upsert? : Item → Option Dataset
  | .flag f => d.upsertFlag? f
  | .segment s => d.upsertSegment? s

/-- The data set after an update. -/
def upsert (x : Item) : Dataset := (d.upsert? x).getD d

/-- The data set after updates, one after the other. -/
def upsertAll (xs : List Item) : Dataset := xs.foldl upsert d

/-- What has arrived at a place, in order: the item that was filed there at first, and then the
updates that belong there. -/
def arrivals (xs : List Item) (place : Place) : List Item :=
  (d.held? place).toList ++ xs.filter fun x => x.place = place

/-! ## One update -/

variable {d} {e : Dataset} {x y : Item} {xs ys : List Item} {place : Place}

/-- A data set is known by what it holds. -/
theorem ext_held? (h : ∀ place, d.held? place = e.held? place) : d = e := by
  obtain ⟨flags, segments⟩ := d
  obtain ⟨flags', segments'⟩ := e
  have hflags : flags = flags' := SortedMap.ext_find? fun key =>
    Option.map_injective (fun f g hfg => Item.flag.inj hfg) (h (.flag key))
  have hsegments : segments = segments' := SortedMap.ext_find? fun key =>
    Option.map_injective (fun s t hst => Item.segment.inj hst) (h (.segment key))
  rw [hflags, hsegments]

/-- An update is accepted just if it is later than what is held at its place. -/
theorem isSome_upsert?_iff :
    (d.upsert? x).isSome = true ↔ ∀ y, d.held? x.place = some y → y.version < x.version := by
  cases x with
  | flag f =>
    rw [upsert?, upsertFlag?, Option.isSome_map, SortedMap.isSome_insertNewer?_iff]
    simp [held?, Item.place, Item.version, Flag.isNewerThan]
  | segment s =>
    rw [upsert?, upsertSegment?, Option.isSome_map, SortedMap.isSome_insertNewer?_iff]
    simp [held?, Item.place, Item.version, Segment.isNewerThan]

theorem upsert_flag (f : Flag) :
    d.upsert (.flag f) =
      { d with flags := (d.flags.insertNewer? Flag.isNewerThan f.key f).getD d.flags } := by
  rw [upsert, upsert?, upsertFlag?]
  cases d.flags.insertNewer? Flag.isNewerThan f.key f <;> rfl

theorem upsert_segment (s : Segment) :
    d.upsert (.segment s) =
      { d with segments := (d.segments.insertNewer? Segment.isNewerThan s.key s).getD d.segments } := by
  rw [upsert, upsert?, upsertSegment?]
  cases d.segments.insertNewer? Segment.isNewerThan s.key s <;> rfl

/-- **An update changes its own place alone**, and there the later item remains. -/
theorem held?_upsert (d : Dataset) (x : Item) (place : Place) :
    (d.upsert x).held? place =
      if x.place = place then some ((d.held? place).elim x (·.later x)) else d.held? place := by
  cases x with
  | flag f =>
    rw [upsert_flag]
    cases place with
    | segment key => simp [held?, Item.place]
    | flag key =>
      simp only [held?, Item.place, SortedMap.find?_insertNewer, Place.flag.injEq]
      by_cases hkey : f.key = key
      · cases d.flags.find? key with
        | none => simp [hkey]
        | some g =>
          by_cases h : g.version < f.version <;>
            simp [hkey, Item.later, Item.version, Flag.isNewerThan, h]
      · simp [hkey]
  | segment s =>
    rw [upsert_segment]
    cases place with
    | flag key => simp [held?, Item.place]
    | segment key =>
      simp only [held?, Item.place, SortedMap.find?_insertNewer, Place.segment.injEq]
      by_cases hkey : s.key = key
      · cases d.segments.find? key with
        | none => simp [hkey]
        | some t =>
          by_cases h : t.version < s.version <;>
            simp [hkey, Item.later, Item.version, Segment.isNewerThan, h]
      · simp [hkey]

/-- Two updates can change places. -/
def Commute (x y : Item) : Prop := ∀ d : Dataset, (d.upsert x).upsert y = (d.upsert y).upsert x

instance : Std.Symm Commute := ⟨fun _ _ h d => (h d).symm⟩

/-- Updates can change places unless they are for one place with one version. -/
theorem commute_of_version_ne (h : x.place = y.place → x.version ≠ y.version) : Commute x y := by
  intro d
  refine ext_held? fun place => ?_
  simp only [held?_upsert]
  by_cases hx : x.place = place
  · by_cases hy : y.place = place
    · have hversion := h (hx.trans hy.symm)
      have hlater : x.later y = y.later x := by grind [Item.later]
      have hboth : ∀ w : Item, (w.later x).later y = (w.later y).later x := by grind [Item.later]
      cases d.held? place with
      | none => simp [hx, hy, hlater]
      | some w => simp [hx, hy, hboth]
    · simp [hx, hy]
  · simp [hx]

end Dataset

/-! ## The latest item

Of several that are equally late it is the first, so the items before it are older. -/

/-- The item is the latest of a list, and the first of those that are equally late. -/
def IsNewest (l : List Item) (x : Item) : Prop :=
  ∃ before after, l = before ++ x :: after ∧ (∀ y ∈ before, y.version < x.version) ∧
    ∀ y ∈ after, y.version ≤ x.version

namespace IsNewest

variable {l : List Item} {x y : Item}

theorem singleton (x : Item) : IsNewest [x] x :=
  ⟨[], [], rfl, List.forall_mem_nil _, List.forall_mem_nil _⟩

theorem mem (h : IsNewest l x) : x ∈ l := by
  obtain ⟨before, after, rfl, -, -⟩ := h
  exact List.mem_append_right _ List.mem_cons_self

theorem version_le (h : IsNewest l x) (hy : y ∈ l) : y.version ≤ x.version := by
  obtain ⟨before, after, rfl, hbefore, hafter⟩ := h
  rcases List.mem_append.1 hy with hy | hy
  · exact Nat.le_of_lt (hbefore y hy)
  · rcases List.mem_cons.1 hy with rfl | hy
    · exact Nat.le_refl _
    · exact hafter y hy

/-- With one more item at the end, the later of the two is the latest. -/
theorem append_later (h : IsNewest l x) (y : Item) : IsNewest (l ++ [y]) (x.later y) := by
  rw [Item.later]
  split
  · next hlt =>
    exact ⟨l, [], rfl, fun z hz => Nat.lt_of_le_of_lt (h.version_le hz) hlt, List.forall_mem_nil _⟩
  · next hle =>
    obtain ⟨before, after, rfl, hbefore, hafter⟩ := h
    refine ⟨before, after ++ [y], by simp, hbefore, fun z hz => ?_⟩
    rcases List.mem_append.1 hz with hz | hz
    · exact hafter z hz
    · rw [List.mem_singleton.1 hz]
      exact Nat.le_of_not_lt hle

/-- There is only one. -/
theorem eq (hx : IsNewest l x) (hy : IsNewest l y) : x = y := by
  have hversion : x.version = y.version :=
    Nat.le_antisymm (hy.version_le hx.mem) (hx.version_le hy.mem)
  obtain ⟨before, after, rfl, hbefore, -⟩ := hx
  obtain ⟨before', after', heq, hbefore', -⟩ := hy
  -- the one that comes first is among those before the other, or they are at one place
  rcases List.append_eq_append_iff.1 heq with ⟨mid, rfl, hmid⟩ | ⟨mid, rfl, hmid⟩
  · cases mid with
    | nil => exact (List.cons.inj hmid).1
    | cons z mid =>
      obtain rfl := (List.cons.inj hmid).1
      exact absurd hversion (Nat.ne_of_lt (hbefore' x (by simp)))
  · cases mid with
    | nil => exact (List.cons.inj hmid).1.symm
    | cons z mid =>
      obtain rfl := (List.cons.inj hmid).1
      exact absurd hversion.symm (Nat.ne_of_lt (hbefore y (by simp)))

end IsNewest

/-! ## Updates one after the other -/

namespace Dataset

variable {d : Dataset} {x : Item} {xs ys : List Item} {place : Place}

theorem arrivals_append_singleton (d : Dataset) (xs : List Item) (x : Item) (place : Place) :
    d.arrivals (xs ++ [x]) place =
      d.arrivals xs place ++ if x.place = place then [x] else [] := by
  rw [arrivals, arrivals, List.filter_append, List.append_assoc]
  by_cases h : x.place = place <;> simp [h]

theorem upsertAll_append_singleton (d : Dataset) (xs : List Item) (x : Item) :
    d.upsertAll (xs ++ [x]) = (d.upsertAll xs).upsert x := by
  rw [upsertAll, List.foldl_append]
  rfl

/-- **What is held at a place is the latest that has arrived there**, and there is something as soon
as anything has arrived. -/
theorem held?_upsertAll (d : Dataset) (xs : List Item) (place : Place) :
    (d.upsertAll xs).held? place = none ∧ d.arrivals xs place = [] ∨
      ∃ x, (d.upsertAll xs).held? place = some x ∧ IsNewest (d.arrivals xs place) x := by
  induction xs using List.reverseRecOn with
  | nil =>
    rw [upsertAll, List.foldl_nil, arrivals, List.filter_nil, List.append_nil]
    cases d.held? place with
    | none => exact Or.inl ⟨rfl, rfl⟩
    | some x => exact Or.inr ⟨x, rfl, .singleton x⟩
  | append_singleton xs y ih =>
    rw [upsertAll_append_singleton, held?_upsert, arrivals_append_singleton]
    by_cases hplace : y.place = place
    · rw [if_pos hplace, if_pos hplace]
      rcases ih with ⟨hnone, hnil⟩ | ⟨x, hsome, hnewest⟩
      · rw [hnone, hnil]
        exact Or.inr ⟨y, rfl, .singleton y⟩
      · rw [hsome]
        exact Or.inr ⟨x.later y, rfl, hnewest.append_later y⟩
    · rwa [if_neg hplace, if_neg hplace, List.append_nil]

theorem held?_upsertAll_eq_some_iff :
    (d.upsertAll xs).held? place = some x ↔ IsNewest (d.arrivals xs place) x := by
  rcases d.held?_upsertAll xs place with ⟨hnone, hnil⟩ | ⟨y, hsome, hnewest⟩
  · rw [hnone, hnil]
    exact iff_of_false nofun fun h => absurd h.mem List.not_mem_nil
  · rw [hsome]
    constructor
    · rintro ⟨⟩
      exact hnewest
    · exact fun h => congrArg some (hnewest.eq h)

theorem held?_upsertAll_eq_none_iff :
    (d.upsertAll xs).held? place = none ↔ d.arrivals xs place = [] := by
  rcases d.held?_upsertAll xs place with ⟨hnone, hnil⟩ | ⟨y, hsome, hnewest⟩
  · exact iff_of_true hnone hnil
  · exact iff_of_false (by simp [hsome]) (List.ne_nil_of_mem hnewest.mem)

/-- An update is accepted just if it is later than all that has arrived at its place. -/
theorem isSome_upsert?_upsertAll_iff :
    ((d.upsertAll xs).upsert? x).isSome = true ↔
      ∀ y ∈ d.arrivals xs x.place, y.version < x.version := by
  rw [isSome_upsert?_iff]
  rcases d.held?_upsertAll xs x.place with ⟨hnone, hnil⟩ | ⟨y, hsome, hnewest⟩
  · simp [hnone, hnil]
  · rw [hsome]
    constructor
    · exact fun h z hz => Nat.lt_of_le_of_lt (hnewest.version_le hz) (h y rfl)
    · rintro h z ⟨⟩
      exact h y hnewest.mem

/-- What is held stays where it is, unless something later arrives. -/
theorem held?_upsertAll_of_le (h : d.held? place = some x)
    (hle : ∀ y ∈ xs, y.place = place → y.version ≤ x.version) :
    (d.upsertAll xs).held? place = some x := by
  rw [held?_upsertAll_eq_some_iff, arrivals, h]
  refine ⟨[], xs.filter fun y => y.place = place, rfl, List.forall_mem_nil _, fun y hy => ?_⟩
  obtain ⟨hmem, hplace⟩ := List.mem_filter.1 hy
  exact hle y hmem (of_decide_eq_true hplace)

theorem upsertAll_eq_of_perm (h : xs.Perm ys)
    (hversions : xs.Pairwise fun x y => x.place = y.place → x.version ≠ y.version) :
    d.upsertAll xs = d.upsertAll ys := by
  have hcomm : ∀ x ∈ xs, ∀ y ∈ xs, Commute x y :=
    List.Pairwise.forall_of_forall (fun _ _ _ => rfl) (hversions.imp commute_of_version_ne)
  exact h.foldl_eq' (fun x hx y hy d => hcomm x hx y hy d) d

/-- A lookup gives what is held, unless it is deleted. -/
theorem item?_ofDataset (d : Dataset) (place : Place) :
    (Store.ofDataset d).item? place = .ok ((d.held? place).filter (!·.deleted)) := by
  cases place with
  | flag key =>
    simp only [Store.item?, Store.flag?, Store.ofDataset, Dataset.flag?, held?, Except.map]
    cases d.flags.find? key <;> simp [Option.filter, Item.deleted]
  | segment key =>
    simp only [Store.item?, Store.segment?, Store.ofDataset, Dataset.segment?, held?, Except.map]
    cases d.segments.find? key <;> simp [Option.filter, Item.deleted]

/-- **Updates in any order lead to the latest of each item.**  Whatever a data set holds at first,
and whatever updates follow:

What is held at a place is the latest of all that has arrived there, the first of those that are
equally late; there is nothing just if nothing has arrived.  An update is accepted just if it is
later than all that has arrived at its place.  A lookup gives what is held, unless it is deleted; so
where a deleted item is held, updates that are no later bring nothing back.  An update changes
nothing at other places, be it another key or the same key of the other sort.  And if no two updates
for one place have one version, then any order of them leads to the same data. -/
theorem upsertAll_converges (d : Dataset) (xs : List Item) :
    (∀ place x, (d.upsertAll xs).held? place = some x ↔ IsNewest (d.arrivals xs place) x) ∧
    (∀ place, (d.upsertAll xs).held? place = none ↔ d.arrivals xs place = []) ∧
    (∀ before x after, xs = before ++ x :: after →
      (((d.upsertAll before).upsert? x).isSome = true ↔
        ∀ y ∈ d.arrivals before x.place, y.version < x.version)) ∧
    (∀ place, (Store.ofDataset (d.upsertAll xs)).item? place =
      .ok (((d.upsertAll xs).held? place).filter (!·.deleted))) ∧
    (∀ before after place x, xs = before ++ after →
      (d.upsertAll before).held? place = some x → x.deleted = true →
      (∀ y ∈ after, y.place = place → y.version ≤ x.version) →
      (Store.ofDataset (d.upsertAll xs)).item? place = .ok none) ∧
    (∀ x place, x.place ≠ place →
      ((d.upsertAll xs).upsert x).held? place = (d.upsertAll xs).held? place) ∧
    (xs.Pairwise (fun x y => x.place = y.place → x.version ≠ y.version) →
      ∀ ys, xs.Perm ys → d.upsertAll xs = d.upsertAll ys) := by
  refine ⟨fun _ _ => held?_upsertAll_eq_some_iff, fun _ => held?_upsertAll_eq_none_iff,
    fun _ _ _ _ => isSome_upsert?_upsertAll_iff, item?_ofDataset _, ?_, ?_,
    fun hversions ys h => upsertAll_eq_of_perm h hversions⟩
  · rintro before after place x rfl hheld hdeleted hle
    have hstays : (d.upsertAll (before ++ after)).held? place = some x := by
      rw [upsertAll, List.foldl_append]
      exact held?_upsertAll_of_le hheld hle
    rw [item?_ofDataset, hstays, Option.filter_some, hdeleted]
    rfl
  · intro x place hplace
    rw [held?_upsert, if_neg hplace]

/-- Another flag is filed under the key at first.  A late update comes after the flag was deleted,
and does not bring it back. -/
theorem upsertAll_converges_late :
    let page : Nat → Item := fun version => .flag { Flag.requiring "page" [] with version }
    let gone : Item := .flag { Flag.requiring "page" [] with version := 4, deleted := true }
    let d : Dataset := ⟨.ofList [("page", .requiring "menu" [])], .empty⟩
    let history := [page 2, gone, .segment (.naming "page" [] []), page 3]
    history.Pairwise (fun x y => x.place = y.place → x.version ≠ y.version) ∧
      d.upsertAll history = d.upsertAll history.reverse ∧
      (d.upsertAll history).held? (.flag "page") = some gone ∧
      ((d.upsertAll (history.take 3)).upsert? (page 3)).isSome = false ∧
      (Store.ofDataset (d.upsertAll history)).item? (.flag "page") = .ok none := by
  intro page gone d history
  obtain ⟨hheld, -, haccepted, -, htombstone, -, hperm⟩ := upsertAll_converges d history
  have hversions : history.Pairwise fun x y => x.place = y.place → x.version ≠ y.version := by
    decide
  refine ⟨hversions, hperm hversions _ history.reverse_perm.symm, ?_, ?_, ?_⟩
  · exact (hheld _ _).2 ⟨[.flag (.requiring "menu" []), page 2], [page 3], rfl, by decide, by decide⟩
  · rw [Bool.eq_false_iff, ne_eq, haccepted _ _ [] rfl]
    have hgone : gone ∈ d.arrivals (history.take 3) (.flag "page") :=
      List.mem_append_right _ (List.mem_filter.2 ⟨.tail _ (.head _), rfl⟩)
    exact fun h => absurd (h gone hgone) (by decide)
  · exact htombstone (history.take 2) (history.drop 2) _ gone rfl rfl rfl (by decide)

end Dataset

end FeatureFlags
