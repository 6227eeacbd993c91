import FeatureFlags.Proofs.Step.Congruence
import Mathlib.Logic.Relation

/-!
# The graphs of flags and segments

A store holds two graphs on its keys.  A flag leads to its prerequisites, and a segment to the
segments that its rules name.  The flag that is evaluated need not be one of the store, so it
stands for its own key in the graph of flags, whatever the store holds there.

Not every prerequisite is looked at: a flag that is off looks at none, and a flag that is on at
none behind one that is missing.  What is left are the live edges.

## What is here

* `Dataset.FlagsUnderOwnKeys`, `Store.NeverFails`: what is asked of a store.
* `Dataset.LiveEdge`: the prerequisites that an evaluation looks at.
* `Dataset.Requires`, `Dataset.Nests`: all prerequisites, and all segments named.
* `Trail`, `LiveTrail`: what is on the chain while a flag is evaluated.
* `Acyclic`, `Grounded`: no key leads back to itself; every walk from a key comes to an end.
-/

set_option autoImplicit false

namespace FeatureFlags

open Relation

/-- No key leads back to itself. -/
def Acyclic (edge : String → String → Prop) : Prop := ∀ key, ¬ TransGen edge key key

/-- A graph is acyclic if its edges go down in some rank. -/
theorem Acyclic.of_rank {edge : String → String → Prop} (rank : String → Nat)
    (hrank : ∀ key other, edge key other → rank other < rank key) : Acyclic edge := by
  intro key hcycle
  have hlt : ∀ other, TransGen edge key other → rank other < rank key := by
    intro other hpath
    induction hpath with
    | single hedge => exact hrank _ _ hedge
    | tail _ hedge ih => exact Nat.lt_trans (hrank _ _ hedge) ih
  exact Nat.lt_irrefl _ (hlt key hcycle)

/-- Every walk from a key comes to an end. -/
def Grounded (edge : String → String → Prop) (key : String) : Prop :=
  Acc (fun other key => edge key other) key

/-- From a grounded key on, no key leads back to itself. -/
theorem Grounded.not_transGen {edge : String → String → Prop} {top key : String}
    (h : Grounded edge top) (hkey : ReflTransGen edge top key) : ¬ TransGen edge key key := by
  have hground : Grounded edge key := by
    induction hkey with
    | refl => exact h
    | tail _ hedge ih => exact ih.inv hedge
  induction hground with
  | intro key _ ih =>
    intro hcycle
    obtain ⟨next, hedge, hback⟩ := TransGen.head'_iff.1 hcycle
    exact ih next hedge (hkey.tail hedge) (TransGen.tail' hback hedge)

/-- A list of entries is where a map gets its values from. -/
theorem SortedMap.mem_of_find?_ofList {α : Type} {l : List (String × α)} {key : String} {value : α}
    (h : (ofList l).find? key = some value) : (key, value) ∈ l := by
  have hfold : ∀ (l : List (String × α)) (m : SortedMap α),
      (l.foldl (fun m e => m.insert e.1 e.2) m).find? key = some value →
        (key, value) ∈ l ∨ m.find? key = some value := by
    intro l
    induction l with
    | nil => exact fun m hm => Or.inr hm
    | cons e l ih =>
      intro m hm
      rcases ih (m.insert e.1 e.2) hm with hl | hinsert
      · exact Or.inl (List.mem_cons_of_mem e hl)
      · rw [find?_insert] at hinsert
        split at hinsert
        · next heq =>
          cases hinsert
          exact Or.inl (heq ▸ List.mem_cons_self)
        · exact Or.inr hinsert
  exact (hfold l .empty h).resolve_right (by simp)

/-- No lookup fails. -/
structure Store.NeverFails (s : Store) : Prop where
  /-- No lookup of a flag fails. -/
  flags : ∀ key, s.flagFailures key = none
  /-- No lookup of a segment fails. -/
  segments : ∀ key, s.segmentFailures key = none

namespace Dataset

variable (d : Dataset)

/-- Every flag is filed under its own key. -/
def FlagsUnderOwnKeys : Prop := ∀ key f, d.flags.find? key = some f → f.key = key

variable {d} in
theorem FlagsUnderOwnKeys.key_eq (h : d.FlagsUnderOwnKeys) {key : String} {f : Flag}
    (hf : d.flag? key = some f) : f.key = key :=
  h key f (find?_of_flag? hf)

/-! ## Flags -/

/-- The flag that a key stands for while the flag `top` is evaluated: `top` itself for its own key,
and otherwise the flag under the key that is not deleted. -/
def flagFor? (top : Flag) (key : String) : Option Flag :=
  if key = top.key then some top else d.flag? key

/-- The prerequisites of a flag before the first whose key stands for no flag. -/
def livePrerequisites (top f : Flag) : List Prerequisite :=
  f.prerequisites.takeWhile fun p => (d.flagFor? top p.key).isSome

/-- A flag that is on leads to its prerequisites before the first that is missing. -/
def LiveEdge (top : Flag) (key other : String) : Prop :=
  ∃ f, d.flagFor? top key = some f ∧ f.on = true ∧
    ∃ p ∈ d.livePrerequisites top f, p.key = other

/-- A flag leads to all its prerequisites. -/
def Requires (top : Flag) (key other : String) : Prop :=
  ∃ f, d.flagFor? top key = some f ∧ ∃ p ∈ f.prerequisites, p.key = other

/-- A segment leads to the segments that its rules name. -/
def Nests (key other : String) : Prop :=
  ∃ s, d.segment? key = some s ∧ other ∈ s.namedSegments

variable {d} {top : Flag}

@[simp] theorem flagFor?_key_self : d.flagFor? top top.key = some top := if_pos rfl

theorem flagFor?_of_ne {key : String} (h : key ≠ top.key) : d.flagFor? top key = d.flag? key :=
  if_neg h

/-- Only a key that stands for a flag leads anywhere. -/
theorem isSome_flagFor?_of_transGen {key other : String} (h : TransGen (d.LiveEdge top) key other) :
    (d.flagFor? top key).isSome := by
  obtain ⟨next, ⟨f, hf, -⟩, -⟩ := TransGen.head'_iff.1 h
  rw [hf]
  rfl

end Dataset

/-! ## Trails

While a flag is evaluated, the chain holds the flags above it. -/

/-- The flag `f` is evaluated as part of the evaluation of `top`, below the flags whose keys are on
the chain.  Each of these came to the next along an edge. -/
structure Trail (d : Dataset) (edge : String → String → Prop) (top : Flag) (chain : List String)
    (f : Flag) : Prop where
  /-- The flag is the one that its key stands for. -/
  stands : d.flagFor? top f.key = some f
  /-- The flag is not below itself. -/
  fresh : f.key ∉ chain
  /-- The evaluation began with `top`. -/
  top_mem : top.key ∈ f.key :: chain
  /-- The evaluation came here along edges. -/
  reached : ReflTransGen edge top.key f.key
  /-- The flags on the chain lead here. -/
  above : ∀ key ∈ chain, TransGen edge key f.key

namespace Trail

variable {d : Dataset} {edge : String → String → Prop} {top f g : Flag} {chain : List String}
  {key : String}

theorem self (d : Dataset) (edge : String → String → Prop) (top : Flag) :
    Trail d edge top [] top where
  stands := Dataset.flagFor?_key_self
  fresh := List.not_mem_nil
  top_mem := List.mem_cons_self
  reached := ReflTransGen.refl
  above _ h := absurd h List.not_mem_nil

/-- Off the chain the store says what a key stands for. -/
theorem flagFor?_of_not_mem (h : Trail d edge top chain f) (hkey : key ∉ f.key :: chain) :
    d.flagFor? top key = d.flag? key :=
  Dataset.flagFor?_of_ne fun heq => hkey (heq ▸ h.top_mem)

/-- A key off the chain makes the trail longer. -/
theorem step (h : Trail d edge top chain f) (hkeys : d.FlagsUnderOwnKeys) (hedge : edge f.key key)
    (hkey : key ∉ f.key :: chain) (hg : d.flag? key = some g) :
    Trail d edge top (f.key :: chain) g := by
  obtain rfl := hkeys.key_eq hg
  refine ⟨?_, hkey, List.mem_cons_of_mem _ h.top_mem, h.reached.tail hedge, ?_⟩
  · rw [h.flagFor?_of_not_mem hkey, hg]
  · intro other hmem
    rcases List.mem_cons.1 hmem with rfl | hmem
    · exact TransGen.single hedge
    · exact (h.above other hmem).tail hedge

/-- A key on the chain closes a cycle. -/
theorem cycle (h : Trail d edge top chain f) (hedge : edge f.key key)
    (hkey : key ∈ f.key :: chain) : TransGen edge key key := by
  rcases List.mem_cons.1 hkey with rfl | hmem
  · exact TransGen.single hedge
  · exact (h.above key hmem).tail hedge

end Trail

/-- A trail along live edges. -/
abbrev LiveTrail (d : Dataset) (top : Flag) (chain : List String) (f : Flag) : Prop :=
  Trail d (d.LiveEdge top) top chain f

namespace LiveTrail

variable {d : Dataset} {top f : Flag} {chain : List String} {key : String}

/-- The keys on the chain, and that of the flag itself, stand for flags. -/
theorem isSome_flagFor? (h : LiveTrail d top chain f) (hkey : key ∈ f.key :: chain) :
    (d.flagFor? top key).isSome := by
  rcases List.mem_cons.1 hkey with rfl | hkey
  · rw [h.stands]
    rfl
  · exact Dataset.isSome_flagFor?_of_transGen (h.above key hkey)

theorem liveEdge (h : LiveTrail d top chain f) (hon : f.on = true) {p : Prerequisite}
    (hp : p ∈ d.livePrerequisites top f) : d.LiveEdge top f.key p.key :=
  ⟨f, h.stands, hon, p, hp, rfl⟩

end LiveTrail

/-! ## Examples of flags and segments -/

/-- The data set of some flags and segments, each under its own key. -/
def Dataset.ofItems (flags : List Flag) (segments : List Segment) : Dataset :=
  ⟨.ofList (flags.map fun f => (f.key, f)), .ofList (segments.map fun s => (s.key, s))⟩

theorem Dataset.flagsUnderOwnKeys_ofItems (flags : List Flag) (segments : List Segment) :
    (ofItems flags segments).FlagsUnderOwnKeys := by
  intro key f hf
  obtain ⟨g, -, heq⟩ := List.mem_map.1 (SortedMap.mem_of_find?_ofList hf)
  cases heq
  rfl

/-- Prerequisites are acyclic if they go down in some rank. -/
theorem Dataset.acyclic_requires_ofItems {flags : List Flag} {segments : List Segment} {top : Flag}
    (rank : String → Nat)
    (hrank : ∀ f ∈ top :: flags, ∀ p ∈ f.prerequisites, rank p.key < rank f.key) :
    Acyclic ((ofItems flags segments).Requires top) := by
  refine Acyclic.of_rank rank ?_
  rintro key other ⟨f, hf, p, hp, rfl⟩
  rw [flagFor?] at hf
  split at hf
  · next heq =>
    cases hf
    rw [heq]
    exact hrank top List.mem_cons_self p hp
  · have hmem := SortedMap.mem_of_find?_ofList (find?_of_flag? hf)
    obtain ⟨g, hg, heq⟩ := List.mem_map.1 hmem
    cases heq
    exact hrank f (List.mem_cons_of_mem top hg) p hp

/-- Segments are acyclic if the segments that they name go down in some rank. -/
theorem Dataset.acyclic_nests_ofItems {flags : List Flag} {segments : List Segment}
    (rank : String → Nat)
    (hrank : ∀ s ∈ segments, ∀ other ∈ s.namedSegments, rank other < rank s.key) :
    Acyclic (ofItems flags segments).Nests := by
  refine Acyclic.of_rank rank ?_
  rintro key other ⟨s, hs, hother⟩
  have hmem := SortedMap.mem_of_find?_ofList (find?_of_segment? hs)
  obtain ⟨t, ht, heq⟩ := List.mem_map.1 hmem
  cases heq
  exact hrank s ht other hother

/-- A flag that is on, requires the first variation of the flags with the given keys, and has only
one variation itself. -/
def Flag.requiring (key : String) (others : List String) : Flag where
  key := key
  version := 1
  deleted := false
  on := true
  prerequisites := others.map fun other => ⟨other, 0⟩
  targets := []
  contextTargets := []
  rules := []
  fallthrough := .fixed 0
  offVariation := none
  variations := [.bool true]
  salt := ""
  trackEvents := false
  trackEventsFallthrough := false
  debugEventsUntilDate := none

/-- The clause that names the segments with the given keys. -/
def Clause.naming (keys : List String) : Clause where
  contextKind := .user
  reference := .ofName ""
  negate := false
  op := .segmentMatch
  values := keys.map .string

/-- The flag with a rule for the segments with the given keys instead of its own. -/
def Flag.forSegments (f : Flag) (keys : List String) : Flag :=
  { f with rules := [⟨"", [.naming keys], .fixed 0, false⟩] }

/-- The flag with another outcome as its fallthrough. -/
def Flag.serving (f : Flag) (o : Outcome) : Flag := { f with fallthrough := o }

/-- A segment that lists some users and has a rule for the segments with the given keys. -/
def Segment.naming (key : String) (users others : List String) : Segment where
  key := key
  version := 1
  deleted := false
  included := users
  excluded := []
  includedContexts := []
  excludedContexts := []
  rules := [⟨[.naming others], none, none, .user⟩]
  salt := ""
  unbounded := false
  unboundedContextKind := .user
  generation := none

/-- The context of a user about whom nothing but a key is known. -/
def Context.ofUserKey (key : String) : Context := .single ⟨.user, key, none, false, none, .empty⟩

end FeatureFlags
