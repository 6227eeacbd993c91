/-!
# Finite maps from text keys

A `SortedMap` is a list of entries in strictly increasing key order.  Strictness leaves one list
for each finite map, so two maps with the same lookups are equal, and the order in which a map is
walked is fixed by its contents alone.

## What is here

* `SortedMap.find?`, `insert`, `erase`, `filter`, `ofList`: the operations, each described through
  `find?`.
* `SortedMap.ext_find?`: maps with the same lookups are equal.
-/

set_option autoImplicit false

namespace FeatureFlags

/-- The key order of entries: strictly increasing, so no key occurs twice. -/
def KeyOrder {α : Type} (a b : String × α) : Prop := a.1 < b.1

/-- A finite map from text keys, as its entries in key order. -/
structure SortedMap (α : Type) where
  entries : List (String × α)
  sorted : entries.Pairwise KeyOrder

namespace SortedMap

variable {α β : Type}

/-! ## Entries -/

/-- The value filed under a key in a list of entries. -/
def lookup (key : String) : List (String × α) → Option α
  | [] => none
  | (k, v) :: rest => if k = key then some v else lookup key rest

/-- Entries with `key` set to `value`, in order again. -/
def insertEntry (key : String) (value : α) : List (String × α) → List (String × α)
  | [] => [(key, value)]
  | (k, v) :: rest =>
    if key < k then (key, value) :: (k, v) :: rest
    else if key = k then (key, value) :: rest
    else (k, v) :: insertEntry key value rest

theorem mem_insertEntry {key : String} {value : α} {e : String × α} {l : List (String × α)}
    (h : e ∈ insertEntry key value l) : e = (key, value) ∨ e ∈ l := by
  induction l with
  | nil => exact Or.inl (by simpa [insertEntry] using h)
  | cons head rest ih =>
    obtain ⟨k, v⟩ := head
    rw [insertEntry] at h
    split at h
    · simpa using h
    · split at h
      · rcases List.mem_cons.1 h with h | h
        · exact Or.inl h
        · exact Or.inr (List.mem_cons_of_mem _ h)
      · rcases List.mem_cons.1 h with h | h
        · exact Or.inr (h ▸ List.mem_cons_self)
        · exact (ih h).imp id (List.mem_cons_of_mem _)

theorem pairwise_insertEntry {key : String} {value : α} {l : List (String × α)}
    (h : l.Pairwise KeyOrder) : (insertEntry key value l).Pairwise KeyOrder := by
  induction l with
  | nil => simp [insertEntry]
  | cons head rest ih =>
    obtain ⟨k, v⟩ := head
    obtain ⟨hhead, hrest⟩ := List.pairwise_cons.1 h
    rw [insertEntry]
    split
    · next hlt =>
      refine List.pairwise_cons.2 ⟨fun e he => ?_, h⟩
      rcases List.mem_cons.1 he with rfl | he
      · exact hlt
      · exact String.lt_trans hlt (hhead e he)
    · next hlt =>
      split
      · next heq => subst heq; exact List.pairwise_cons.2 ⟨hhead, hrest⟩
      · next hne =>
        refine List.pairwise_cons.2 ⟨fun e he => ?_, ih hrest⟩
        rcases mem_insertEntry he with rfl | he
        · show k < key
          refine Decidable.byContradiction fun hk => hne ?_
          exact String.le_antisymm (String.not_lt.1 hk) (String.not_lt.1 hlt)
        · exact hhead e he

theorem lookup_insertEntry (key key' : String) (value : α) (l : List (String × α)) :
    lookup key' (insertEntry key value l) = if key = key' then some value else lookup key' l := by
  induction l with
  | nil => simp [insertEntry, lookup]
  | cons head rest ih =>
    obtain ⟨k, v⟩ := head
    rw [insertEntry]
    split
    · simp [lookup]
    · split
      · next heq => subst heq; by_cases hk : key = key' <;> simp [lookup, hk]
      · next hne =>
        by_cases hk : k = key'
        · subst hk
          simp [lookup, hne]
        · simp [lookup, hk, ih]

theorem lookup_eq_none_of_lt {key : String} {l : List (String × α)}
    (h : ∀ e ∈ l, key < e.1) : lookup key l = none := by
  induction l with
  | nil => rfl
  | cons head rest ih =>
    have hne : head.1 ≠ key := fun heq =>
      String.lt_irrefl key (by simpa [heq] using h head List.mem_cons_self)
    rw [lookup, if_neg hne]
    exact ih fun e he => h e (List.mem_cons_of_mem _ he)

theorem lookup_filter_ne (key key' : String) (l : List (String × α)) :
    lookup key' (l.filter fun e => e.1 ≠ key) = if key = key' then none else lookup key' l := by
  induction l with
  | nil => simp [lookup]
  | cons head rest ih =>
    obtain ⟨k, v⟩ := head
    by_cases hk : k = key
    · subst hk
      by_cases hk' : k = key' <;> simp_all [lookup]
    · by_cases hk' : k = key'
      · subst hk'
        simp [lookup, hk, Ne.symm hk]
      · simp_all [lookup]

theorem lookup_filter (p : α → Bool) (key : String) {l : List (String × α)}
    (h : l.Pairwise KeyOrder) :
    lookup key (l.filter fun e => p e.2) = (lookup key l).filter p := by
  induction l with
  | nil => rfl
  | cons head rest ih =>
    obtain ⟨k, v⟩ := head
    obtain ⟨hhead, hrest⟩ := List.pairwise_cons.1 h
    rw [lookup]
    by_cases hv : p v = true
    · rw [List.filter_cons_of_pos (by simpa using hv), lookup, ih hrest]
      split
      · rw [Option.filter_some, if_pos hv]
      · rfl
    · rw [List.filter_cons_of_neg (by simpa using hv), ih hrest]
      split
      · next heq =>
        -- the key does not occur again
        rw [lookup_eq_none_of_lt fun e he => heq ▸ hhead e he, Option.filter_some, if_neg hv]
        rfl
      · rfl

theorem lookup_append (key : String) (l m : List (String × α)) :
    lookup key (l ++ m) = (lookup key l).or (lookup key m) := by
  induction l with
  | nil => rfl
  | cons head rest ih =>
    obtain ⟨k, v⟩ := head
    by_cases hk : k = key <;> simp [lookup, hk, ih]

theorem lookup_map (f : α → β) (key : String) (l : List (String × α)) :
    lookup key (l.map fun e => (e.1, f e.2)) = (lookup key l).map f := by
  induction l with
  | nil => rfl
  | cons head rest ih =>
    obtain ⟨k, v⟩ := head
    by_cases hk : k = key <;> simp [lookup, hk, ih]

theorem lookup_filter_key (p : String → Bool) (key : String) (l : List (String × α)) :
    lookup key (l.filter fun e => p e.1) = if p key then lookup key l else none := by
  induction l with
  | nil => simp [lookup]
  | cons head rest ih =>
    obtain ⟨k, v⟩ := head
    by_cases hk : k = key
    · subst hk
      by_cases hp : p k = true <;> simp [lookup, hp, ih]
    · by_cases hp : p k = true <;> simp [lookup, hk, hp, ih]

theorem mem_of_lookup {key : String} {value : α} {l : List (String × α)}
    (h : lookup key l = some value) : (key, value) ∈ l := by
  induction l with
  | nil => cases h
  | cons head rest ih =>
    obtain ⟨k, v⟩ := head
    rw [lookup] at h
    split at h
    · next heq =>
      cases h
      exact heq ▸ List.mem_cons_self
    · exact List.mem_cons_of_mem _ (ih h)

theorem lookup_eq_none_iff {key : String} {l : List (String × α)} :
    lookup key l = none ↔ ∀ e ∈ l, e.1 ≠ key := by
  induction l with
  | nil => simp [lookup]
  | cons head rest ih =>
    obtain ⟨k, v⟩ := head
    by_cases hk : k = key <;> simp [lookup, hk, ih]

/-- Where no key occurs twice, looking a key up finds the only entry that has it. -/
theorem lookup_eq_some_iff {key : String} {value : α} {l : List (String × α)}
    (h : (l.map Prod.fst).Nodup) : lookup key l = some value ↔ (key, value) ∈ l := by
  refine ⟨mem_of_lookup, fun hmem => ?_⟩
  induction l with
  | nil => cases hmem
  | cons head rest ih =>
    obtain ⟨hhead, hrest⟩ := List.nodup_cons.1 h
    rcases List.mem_cons.1 hmem with rfl | hmem
    · simp [lookup]
    · have hne : head.1 ≠ key := fun heq => hhead (heq ▸ List.mem_map_of_mem hmem)
      rw [lookup, if_neg hne]
      exact ih hrest hmem

theorem eq_of_lookup_eq {l m : List (String × α)} (hl : l.Pairwise KeyOrder)
    (hm : m.Pairwise KeyOrder) (h : ∀ key, lookup key l = lookup key m) : l = m := by
  induction l generalizing m with
  | nil =>
    cases m with
    | nil => rfl
    | cons head rest => simpa [lookup] using h head.1
  | cons a l ih =>
    cases m with
    | nil => simpa [lookup] using h a.1
    | cons b m =>
      obtain ⟨hla, hl⟩ := List.pairwise_cons.1 hl
      obtain ⟨hmb, hm⟩ := List.pairwise_cons.1 hm
      have hkey : a.1 = b.1 := by
        refine Decidable.byContradiction fun hne => ?_
        rcases String.le_total a.1 b.1 with hle | hle
        · have hlt : a.1 < b.1 :=
            Decidable.byContradiction fun hn => hne (String.le_antisymm hle (String.not_lt.1 hn))
          have := h a.1
          rw [lookup, if_pos rfl, lookup, if_neg (Ne.symm hne),
            lookup_eq_none_of_lt fun e he => String.lt_trans hlt (hmb e he)] at this
          cases this
        · have hlt : b.1 < a.1 :=
            Decidable.byContradiction fun hn => hne (String.le_antisymm (String.not_lt.1 hn) hle)
          have := h b.1
          rw [lookup, if_neg hne, lookup, if_pos rfl,
            lookup_eq_none_of_lt fun e he => String.lt_trans hlt (hla e he)] at this
          cases this
      have hval : a.2 = b.2 := by
        have := h a.1
        rw [lookup, if_pos rfl, lookup, if_pos hkey.symm] at this
        exact Option.some.inj this
      have hhead : a = b := Prod.ext hkey hval
      refine hhead ▸ congrArg (a :: ·) (ih hl hm fun key => ?_)
      by_cases hk : a.1 = key
      · rw [lookup_eq_none_of_lt fun e he => hk ▸ hla e he,
          lookup_eq_none_of_lt fun e he => (hkey ▸ hk) ▸ hmb e he]
      · have := h key
        rwa [lookup, if_neg hk, lookup, if_neg (hkey ▸ hk)] at this

/-! ## Maps -/

/-- The map without entries. -/
def empty : SortedMap α := ⟨[], List.Pairwise.nil⟩

instance : Inhabited (SortedMap α) := ⟨empty⟩

instance [DecidableEq α] : DecidableEq (SortedMap α) := fun a b =>
  decidable_of_iff (a.entries = b.entries)
    ⟨fun h => by cases a; cases b; simpa using h, fun h => h ▸ rfl⟩

/-- The value filed under `key`. -/
def find? (m : SortedMap α) (key : String) : Option α := lookup key m.entries

/-- A map as the function that looks keys up. -/
instance : Coe (SortedMap α) (String → Option α) := ⟨find?⟩

/-- Whether something is filed under `key`. -/
def contains (m : SortedMap α) (key : String) : Bool := (m.find? key).isSome

/-- The map with `value` filed under `key`, replacing what was there. -/
def insert (m : SortedMap α) (key : String) (value : α) : SortedMap α :=
  ⟨insertEntry key value m.entries, pairwise_insertEntry m.sorted⟩

/-- The map with nothing filed under `key`. -/
def erase (m : SortedMap α) (key : String) : SortedMap α :=
  ⟨m.entries.filter fun e => e.1 ≠ key, m.sorted.filter _⟩

/-- The map without the values that fail a test. -/
def filter (p : α → Bool) (m : SortedMap α) : SortedMap α :=
  ⟨m.entries.filter fun e => p e.2, m.sorted.filter _⟩

/-- The map of a list of entries; of two entries for one key the later counts. -/
def ofList (l : List (String × α)) : SortedMap α :=
  l.foldl (fun m e => m.insert e.1 e.2) empty

/-- The keys, in order. -/
def keys (m : SortedMap α) : List String := m.entries.map Prod.fst

/-- The number of entries. -/
def size (m : SortedMap α) : Nat := m.entries.length

/-- The map with `f` applied to every value. -/
def mapValues (f : α → β) (m : SortedMap α) : SortedMap β :=
  ⟨m.entries.map fun e => (e.1, f e.2), by
    have h := m.sorted
    exact List.pairwise_map.2 (h.imp fun hab => hab)⟩

@[simp] theorem find?_empty (key : String) : (empty : SortedMap α).find? key = none := rfl

@[simp] theorem find?_insert (m : SortedMap α) (key key' : String) (value : α) :
    (m.insert key value).find? key' = if key = key' then some value else m.find? key' :=
  lookup_insertEntry key key' value m.entries

@[simp] theorem find?_erase (m : SortedMap α) (key key' : String) :
    (m.erase key).find? key' = if key = key' then none else m.find? key' :=
  lookup_filter_ne key key' m.entries

@[simp] theorem find?_filter (p : α → Bool) (m : SortedMap α) (key : String) :
    (m.filter p).find? key = (m.find? key).filter p :=
  lookup_filter p key m.sorted

@[simp] theorem find?_mapValues (f : α → β) (m : SortedMap α) (key : String) :
    (m.mapValues f).find? key = (m.find? key).map f :=
  lookup_map f key m.entries

/-- No key of a map occurs twice. -/
theorem nodup_keys (m : SortedMap α) : (m.entries.map Prod.fst).Nodup := by
  refine List.pairwise_map.2 (m.sorted.imp fun {a b} hab heq => ?_)
  rw [KeyOrder, heq] at hab
  exact String.lt_irrefl b.1 hab

theorem mem_entries_iff {m : SortedMap α} {key : String} {value : α} :
    (key, value) ∈ m.entries ↔ m.find? key = some value :=
  (lookup_eq_some_iff m.nodup_keys).symm

/-- The map of a list without repeated keys has the entries of the list. -/
theorem find?_ofList {l : List (String × α)} (h : (l.map Prod.fst).Nodup) (key : String) :
    (ofList l).find? key = lookup key l := by
  have hfold : ∀ (l : List (String × α)) (m : SortedMap α), (l.map Prod.fst).Nodup →
      (l.foldl (fun m e => m.insert e.1 e.2) m).find? key =
        (lookup key l).or (m.find? key) := by
    intro l
    induction l with
    | nil => intro m _; rfl
    | cons head rest ih =>
      intro m hnodup
      obtain ⟨hhead, hrest⟩ := List.nodup_cons.1 hnodup
      rw [List.foldl_cons, ih _ hrest, find?_insert, lookup]
      split
      · next heq =>
        -- the key does not occur again
        have hnone : lookup key rest = none := lookup_eq_none_iff.2 fun e he hkey =>
          hhead (heq ▸ hkey ▸ List.mem_map_of_mem he)
        rw [hnone]
        rfl
      · rfl
  rw [ofList, hfold l empty h, find?_empty, Option.or_none]

/-- **Extensionality**: a map is determined by its lookups. -/
theorem ext_find? {m n : SortedMap α} (h : ∀ key, m.find? key = n.find? key) : m = n := by
  cases m with
  | mk l hl =>
    cases n with
    | mk k hk =>
      have : l = k := eq_of_lookup_eq hl hk h
      subst this
      rfl

/-- Maps with something related under the same keys have the same size. -/
theorem size_eq_of_rel {P : α → β → Prop} {m : SortedMap α} {n : SortedMap β}
    (h : ∀ key, Option.Rel P (m.find? key) (n.find? key)) : m.size = n.size := by
  have hkeys : m.mapValues (fun _ => ()) = n.mapValues fun _ => () := by
    refine ext_find? fun key => ?_
    have hrel := h key
    rw [find?_mapValues, find?_mapValues]
    generalize m.find? key = found, n.find? key = found' at hrel ⊢
    cases hrel with
    | none => rfl
    | some _ => rfl
  have hlength := congrArg size hkeys
  simpa [size, mapValues] using hlength

/-- A test that does not tell related values apart leaves related values. -/
theorem rel_filter {P : α → β → Prop} {found : Option α} {found' : Option β}
    (h : Option.Rel P found found') {p : α → Bool} {q : β → Bool} (hpq : ∀ a b, P a b → p a = q b) :
    Option.Rel P (found.filter p) (found'.filter q) := by
  cases h with
  | none => exact .none
  | @some a b hab =>
    rw [Option.filter_some, Option.filter_some, hpq a b hab]
    split
    · exact .some hab
    · exact .none

/-- The entries of a list that is in order already. -/
theorem entries_ofList {l : List (String × α)} (h : l.Pairwise KeyOrder) :
    (ofList l).entries = l := by
  have hnodup := nodup_keys ⟨l, h⟩
  exact congrArg entries (ext_find? (find?_ofList hnodup) : ofList l = ⟨l, h⟩)

end SortedMap

end FeatureFlags
