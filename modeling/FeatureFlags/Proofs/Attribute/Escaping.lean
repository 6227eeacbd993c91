import FeatureFlags.Attribute.Reference
import FeatureFlags.Proofs.Json.Fields
import FeatureFlags.Proofs.Text.Pieces

/-!
# References and their texts

A text that begins with a slash is a path.  It is split at its slashes first, and each part is read
on its own afterwards.  The split must not see a slash that belongs to a component, and that is what
escaping is for: there is no slash in an escaped component.  Tildes have to be escaped as well,
since escapes begin with them.

For parts without slashes, reading undoes escaping and escaping undoes reading.  So a path
determines its components, and components determine their path.  What can be read at all is a matter
of the tildes alone: each must be followed by a zero or a one, and no tilde is hidden by the one
before it, since neither a zero nor a one is a tilde.

An attribute name from data without context kinds is no path, whatever it begins with.  It is kept
as it is if it does not begin with a slash, and escaped as a single component if it does.

## What is here

* `Reference.TildesEscape`, `Reference.WellFormed`: the texts that can be read.
* `Reference.unescape_eq_ok_iff`, `readPath_path_eq_ok_iff`: parts and paths, read and written.
* `Reference.path_ofFlagData`: attribute names.
* `Reference.escaping_exact`: the theorem.
-/

set_option autoImplicit false

namespace FeatureFlags

namespace Reference

/-! ## Texts that can be read -/

/-- Every tilde is followed by a zero or a one. -/
def TildesEscape (part : List Char) : Prop :=
  ∀ i, part[i]? = some '~' → part[i + 1]? = some '0' ∨ part[i + 1]? = some '1'

/-- A text is not empty, and either does not begin with a slash or is a slash followed by parts with
slashes between them.  The parts are not empty, and all of their tildes escape. -/
def WellFormed (text : List Char) : Prop :=
  text ≠ [] ∧ (text.head? ≠ some '/' ∨
    ∃ parts : List (List Char), parts ≠ [] ∧ text = '/' :: ['/'].intercalate parts ∧
      ∀ part ∈ parts, part ≠ [] ∧ '/' ∉ part ∧ TildesEscape part)

theorem tildesEscape_nil : TildesEscape [] := by
  intro i hi
  simp at hi

theorem tildesEscape_cons_iff {c : Char} {rest : List Char} :
    TildesEscape (c :: rest) ↔
      (c = '~' → rest[0]? = some '0' ∨ rest[0]? = some '1') ∧ TildesEscape rest := by
  constructor
  · intro h
    exact ⟨fun hc => h 0 (by simp [hc]), fun i hi => h (i + 1) (by simpa using hi)⟩
  · rintro ⟨hhead, hrest⟩ i hi
    cases i with
    | zero => exact hhead (by simpa using hi)
    | succ i => exact hrest i (by simpa using hi)

/-! ## Escaping -/

/-- A text with another one put in for a character. -/
def substitute (c : Char) (replacement text : List Char) : List Char :=
  text.flatMap fun d => if d = c then replacement else [d]

/-- Escaping replaces the tildes and then the slashes.  The other way round, the tildes that stand
for slashes would be replaced as well. -/
theorem escape_eq_substitute (s : List Char) :
    escape s = substitute '/' ['~', '1'] (substitute '~' ['~', '0'] s) := by
  induction s with
  | nil => rfl
  | cons c rest ih =>
    rw [escape, ih]
    by_cases htilde : c = '~'
    · simp [substitute, htilde]
    · by_cases hslash : c = '/'
      · simp [substitute, hslash]
      · simp [substitute, htilde, hslash]

theorem slash_not_mem_escape (s : List Char) : '/' ∉ escape s := by
  induction s with
  | nil => simp [escape]
  | cons c rest ih =>
    rw [escape]
    split
    · simpa using ih
    · split
      · simpa using ih
      · next hslash => simpa [eq_comm, hslash] using ih

theorem escape_eq_nil_iff {s : List Char} : escape s = [] ↔ s = [] := by
  cases s with
  | nil => simp [escape]
  | cons c rest =>
    rw [escape]
    split
    · simp
    · split <;> simp

/-! ## Parts -/

/-- **Reading undoes escaping.** -/
theorem unescape_escape (s : List Char) : unescape (escape s) = .ok s := by
  induction s with
  | nil => rfl
  | cons c rest ih =>
    rw [escape]
    split
    · next htilde =>
      rw [unescape, ih, htilde]
      rfl
    · next htilde =>
      split
      · next hslash =>
        rw [unescape, ih, hslash]
        rfl
      · rw [unescape.eq_4 c _ (fun _ h => absurd h htilde) (fun _ h => absurd h htilde),
          if_neg htilde, ih]
        rfl

/-- Escaping undoes reading, where there is no slash. -/
theorem eq_escape_of_unescape {part s : List Char} (hslash : '/' ∉ part)
    (h : unescape part = .ok s) : part = escape s := by
  fun_induction unescape part generalizing s with
  | case1 =>
    cases h
    rfl
  | case2 rest ih =>
    obtain ⟨t, ht, rfl⟩ := Decode.map_eq_ok_iff.1 h
    simp only [List.mem_cons, not_or] at hslash
    rw [ih hslash.2.2 ht, escape, if_pos rfl]
  | case3 rest ih =>
    obtain ⟨t, ht, rfl⟩ := Decode.map_eq_ok_iff.1 h
    simp only [List.mem_cons, not_or] at hslash
    rw [ih hslash.2.2 ht, escape, if_neg (by decide), if_pos rfl]
  | case4 rest => cases h
  | case5 c rest _ _ htilde ih =>
    obtain ⟨t, ht, rfl⟩ := Decode.map_eq_ok_iff.1 h
    simp only [List.mem_cons, not_or] at hslash
    rw [ih hslash.2 ht, escape, if_neg htilde, if_neg (Ne.symm hslash.1)]

theorem unescape_eq_ok_iff {part s : List Char} (hslash : '/' ∉ part) :
    unescape part = .ok s ↔ part = escape s :=
  ⟨eq_escape_of_unescape hslash, fun h => h ▸ unescape_escape s⟩

/-- A part can be read just if all of its tildes escape. -/
theorem exists_unescape_iff {part : List Char} :
    (∃ s, unescape part = .ok s) ↔ TildesEscape part := by
  have hmap {c : Char} {rest : List Char} :
      (∃ s, (c :: ·) <$> unescape rest = .ok s) ↔ ∃ s, unescape rest = .ok s := by
    simp only [Decode.map_eq_ok_iff]
    exact ⟨fun ⟨_, s, hs, _⟩ => ⟨s, hs⟩, fun ⟨s, hs⟩ => ⟨_, s, hs, rfl⟩⟩
  fun_induction unescape part with
  | case1 => simpa using tildesEscape_nil
  | case2 rest ih => simp [hmap, ih, tildesEscape_cons_iff]
  | case3 rest ih => simp [hmap, ih, tildesEscape_cons_iff]
  | case4 rest hzero hone =>
    refine iff_of_false nofun fun h => ?_
    have hnext := (tildesEscape_cons_iff.1 h).1 rfl
    cases rest with
    | nil => simp at hnext
    | cons d rest =>
      simp only [List.getElem?_cons_zero, Option.some.injEq] at hnext
      rcases hnext with rfl | rfl
      · exact hzero rest rfl rfl
      · exact hone rest rfl rfl
  | case5 c rest _ _ htilde ih => simp [hmap, ih, tildesEscape_cons_iff, htilde]

theorem readPart_eq_ok_iff {part : List Char} {component : String} :
    readPart part = .ok component ↔ part ≠ [] ∧ unescape part = .ok component.toList := by
  rw [readPart]
  split
  · next hempty => exact iff_of_false nofun fun h => h.1 (List.isEmpty_iff.1 hempty)
  · next hempty =>
    rw [Decode.map_eq_ok_iff]
    constructor
    · rintro ⟨s, hs, rfl⟩
      exact ⟨fun h => hempty (List.isEmpty_iff.2 h), by rw [hs, String.toList_ofList]⟩
    · rintro ⟨-, h⟩
      exact ⟨_, h, String.ofList_toList⟩

/-! ## Paths -/

/-- The escaped form of a component. -/
def escapeText (component : String) : String := .ofList (escape component.toList)

/-- Parts are read just if they are components escaped. -/
theorem mapM_readPart_eq_ok_iff {parts : List (List Char)} (hslash : ∀ part ∈ parts, '/' ∉ part)
    {components : List String} :
    parts.mapM readPart = .ok components ↔
      (∀ c ∈ components, c ≠ "") ∧ parts = components.map fun c => escape c.toList := by
  induction parts generalizing components with
  | nil => cases components <;> simp [pure, Except.pure]
  | cons part rest ih =>
    obtain ⟨hpart, hrest⟩ := List.forall_mem_cons.1 hslash
    simp only [List.mapM_cons, Decode.bind_eq_ok_iff, readPart_eq_ok_iff,
      unescape_eq_ok_iff hpart, ih hrest, pure, Except.pure, Except.ok.injEq]
    constructor
    · rintro ⟨c, ⟨hne, rfl⟩, cs, ⟨hcs, rfl⟩, rfl⟩
      refine ⟨List.forall_mem_cons.2 ⟨?_, hcs⟩, rfl⟩
      rintro rfl
      exact hne rfl
    · rintro ⟨hcs, hparts⟩
      cases components with
      | nil => simp at hparts
      | cons c cs =>
        obtain ⟨hc, hcs⟩ := List.forall_mem_cons.1 hcs
        obtain ⟨rfl, rfl⟩ := List.cons.inj hparts
        have hne : escape c.toList ≠ [] := by simpa [escape_eq_nil_iff] using hc
        exact ⟨c, ⟨hne, rfl⟩, cs, ⟨hcs, rfl⟩, rfl⟩

/-- What follows the slash of a path is split and read part by part, even if it is empty. -/
theorem readPath_slash_eq_ok_iff {text : List Char} {components : List String} :
    readPath ('/' :: text) = .ok components ↔
      (text.splitOn '/').mapM readPart = .ok components := by
  cases text with
  | nil => exact iff_of_false nofun nofun
  | cons c rest => rfl

/-- **A path is read just if it is written**, from components none of which is empty. -/
theorem readPath_path_eq_ok_iff {text : List Char} {components : List String} :
    readPath ('/' :: text) = .ok components ↔
      components ≠ [] ∧ (∀ c ∈ components, c ≠ "") ∧
        text = ['/'].intercalate (components.map fun c => escape c.toList) := by
  rw [readPath_slash_eq_ok_iff, mapM_readPart_eq_ok_iff fun _ => Text.not_mem_of_mem_splitOn]
  constructor
  · rintro ⟨hne, hsplit⟩
    refine ⟨?_, hne, ?_⟩
    · rintro rfl
      exact List.splitOn_ne_nil '/' text hsplit
    · rw [← hsplit, List.intercalate_splitOn]
  · rintro ⟨hcomponents, hne, rfl⟩
    refine ⟨hne, List.splitOn_intercalate '/' ?_ (by simpa using hcomponents)⟩
    simpa using fun (c : String) _ => slash_not_mem_escape c.toList

/-- A text that is not empty and does not begin with a slash is a name. -/
theorem readPath_name {text : List Char} (hne : text ≠ []) (hhead : text.head? ≠ some '/') :
    readPath text = .ok [String.ofList text] := by
  cases text with
  | nil => exact absurd rfl hne
  | cons c rest =>
    have hslash : c ≠ '/' := by simpa using hhead
    rw [readPath.eq_4 (c :: rest) (by simp) (by simp [hslash]) (by simp [hslash])]

/-! ## Whole references -/

theorem isValid_iff {r : Reference} : r.isValid = true ↔ ∃ components, r.path = .ok components := by
  rw [isValid]
  cases r.path <;> simp [Except.isOk, Except.toBool]

/-- Paths have components just if their parts can be read. -/
theorem exists_mapM_readPart_iff {parts : List (List Char)} :
    (∃ components : List String, parts.mapM readPart = .ok components) ↔
      ∀ part ∈ parts, part ≠ [] ∧ TildesEscape part := by
  have hpart {part : List Char} :
      (∃ c, readPart part = .ok c) ↔ part ≠ [] ∧ TildesEscape part := by
    simp only [readPart_eq_ok_iff, exists_and_left, ← exists_unescape_iff]
    refine and_congr_right fun _ => ⟨fun ⟨c, hc⟩ => ⟨_, hc⟩, fun ⟨s, hs⟩ => ⟨.ofList s, ?_⟩⟩
    rw [hs, String.toList_ofList]
  induction parts with
  | nil => simp [pure, Except.pure]
  | cons part rest ih =>
    rw [List.forall_mem_cons, ← hpart]
    simp only [List.mapM_cons, Decode.bind_eq_ok_iff]
    constructor
    · rintro ⟨_, c, hc, cs, hcs, -⟩
      exact ⟨⟨c, hc⟩, ih.1 ⟨cs, hcs⟩⟩
    · rintro ⟨⟨c, hc⟩, hrest⟩
      obtain ⟨cs, hcs⟩ := ih.2 hrest
      exact ⟨_, c, hc, cs, hcs, rfl⟩

/-- A reference is valid just if its text is well formed. -/
theorem isValid_iff_wellFormed {text : List Char} :
    (⟨.ofList text⟩ : Reference).isValid = true ↔ WellFormed text := by
  rw [isValid_iff, path, String.toList_ofList, WellFormed]
  by_cases hne : text = []
  · subst hne
    exact iff_of_false nofun fun h => h.1 rfl
  · by_cases hhead : text.head? = some '/'
    · obtain ⟨rest, rfl⟩ := List.head?_eq_some_iff.1 hhead
      simp only [readPath_slash_eq_ok_iff, exists_mapM_readPart_iff]
      constructor
      · intro h
        refine ⟨hne, Or.inr ⟨rest.splitOn '/', List.splitOn_ne_nil '/' rest, ?_, ?_⟩⟩
        · rw [List.intercalate_splitOn]
        · exact fun part hpart =>
            ⟨(h part hpart).1, Text.not_mem_of_mem_splitOn hpart, (h part hpart).2⟩
      · rintro ⟨-, hname | ⟨parts, hparts, heq, h⟩⟩
        · exact absurd hhead hname
        · obtain rfl := (List.cons.inj heq).2
          rw [List.splitOn_intercalate '/' (fun part hpart => (h part hpart).2.1) hparts]
          exact fun part hpart => ⟨(h part hpart).1, (h part hpart).2.2⟩
    · exact iff_of_true ⟨_, readPath_name hne hhead⟩ ⟨hne, Or.inl hhead⟩

/-- The text of a path, as it is read. -/
theorem toList_path (components : List String) :
    ("/" ++ "/".intercalate (components.map escapeText)).toList =
      '/' :: ['/'].intercalate (components.map fun c => escape c.toList) := by
  simp [escapeText, Function.comp_def]

theorem path_eq_ok_iff {s : String} (hpath : s.toList.head? = some '/') {components : List String} :
    (⟨s⟩ : Reference).path = .ok components ↔
      components ≠ [] ∧ (∀ c ∈ components, c ≠ "") ∧
        s = "/" ++ "/".intercalate (components.map escapeText) := by
  obtain ⟨rest, hrest⟩ := List.head?_eq_some_iff.1 hpath
  rw [path, hrest, readPath_path_eq_ok_iff, ← String.toList_inj, toList_path, hrest]
  simp

/-- Parts with a slash before each are a slash and the parts with slashes between them. -/
theorem flatMap_slash {parts : List (List Char)} (h : parts ≠ []) :
    parts.flatMap ('/' :: ·) = '/' :: ['/'].intercalate parts := by
  obtain ⟨part, rest, rfl⟩ := List.exists_cons_of_ne_nil h
  rw [Text.intercalate_cons, List.flatMap_cons, List.cons_append]

/-- **A path has the components that it was made of.** -/
theorem path_ofPath {components : List String} (hne : components ≠ [])
    (h : ∀ c ∈ components, c ≠ "") : (ofPath components).path = .ok components := by
  have htext : components.flatMap (fun c => '/' :: escape c.toList) =
      '/' :: ['/'].intercalate (components.map fun c => escape c.toList) := by
    rw [← flatMap_slash (by simpa using hne), List.flatMap_map]
  rw [ofPath, path, String.toList_ofList, htext]
  exact readPath_path_eq_ok_iff.2 ⟨hne, h, rfl⟩

/-- A name that does not begin with a slash is its own only component. -/
theorem path_name {name : String} (hname : name ≠ "") (hhead : name.toList.head? ≠ some '/') :
    (⟨name⟩ : Reference).path = .ok [name] := by
  rw [path, readPath_name (by simpa using hname) hhead, String.ofList_toList]

/-- An attribute name is the only component of its reference. -/
theorem path_ofFlagData {name : String} (hname : name ≠ "") :
    (ofFlagData name false).path = .ok [name] := by
  rw [ofFlagData, if_neg (by decide), ofName]
  split
  · exact path_ofPath (List.cons_ne_nil name []) (by simpa using hname)
  · next hhead => exact path_name hname hhead

/-- There are two ways to write the reference to the kind. -/
theorem isKind_iff {r : Reference} : r.isKind = true ↔ r.text = "kind" ∨ r.text = "/kind" := by
  have hkind : r.isKind = true ↔ r.path = .ok ["kind"] := by
    rw [isKind, components]
    cases r.path <;> simp
  rw [hkind]
  by_cases hhead : r.text.toList.head? = some '/'
  · rw [path_eq_ok_iff hhead]
    constructor
    · rintro ⟨-, -, htext⟩
      exact Or.inr htext
    · rintro (htext | htext)
      · rw [htext] at hhead
        cases hhead
      · exact ⟨List.cons_ne_nil "kind" [], by decide, htext⟩
  · by_cases hempty : r.text = ""
    · rw [path, hempty]
      exact iff_of_false nofun (by decide)
    · rw [path_name hempty hhead]
      constructor
      · intro h
        exact Or.inl (List.head_eq_of_cons_eq (Except.ok.inj h))
      · rintro (htext | htext)
        · rw [htext]
        · rw [htext] at hhead
          exact absurd rfl hhead

/-- **References are read exactly as they are written.**  A reference is valid just if its text is
well formed.  Components that are not empty, escaped and joined to a path, are read again as they
were; and whoever escapes and joins the components of a valid path gets the path back.  An attribute
name of flag data without context kinds, whatever characters it has, is a valid reference with the
name as its only component, and it is that of the kind only if it is `kind`. -/
theorem escaping_exact :
    (∀ s : String, (⟨s⟩ : Reference).isValid = true ↔ WellFormed s.toList) ∧
    (∀ c : String, escapeText c =
      .ofList (substitute '/' ['~', '1'] (substitute '~' ['~', '0'] c.toList))) ∧
    (∀ components : List String, components ≠ [] → (∀ c ∈ components, c ≠ "") →
      let r : Reference := ⟨"/" ++ "/".intercalate (components.map escapeText)⟩
      r.isValid = true ∧ r.components = components) ∧
    (∀ s : String, s.toList.head? = some '/' → (⟨s⟩ : Reference).isValid = true →
      "/" ++ "/".intercalate ((⟨s⟩ : Reference).components.map escapeText) = s) ∧
    ∀ name : String, name ≠ "" →
      let r := ofFlagData name false
      r.isValid = true ∧ r.depth = 1 ∧ r.components[0]? = some name ∧
        (r.isKind = true ↔ name = "kind") := by
  refine ⟨fun s => ?_, fun c => ?_, fun components hne hcomponents => ?_, fun s hpath hvalid => ?_,
    fun name hname => ?_⟩
  · rw [← isValid_iff_wellFormed, String.ofList_toList]
  · rw [escapeText, escape_eq_substitute]
  · have hread : (⟨"/" ++ "/".intercalate (components.map escapeText)⟩ : Reference).path =
        .ok components := (path_eq_ok_iff (by simp)).2 ⟨hne, hcomponents, rfl⟩
    exact ⟨isValid_iff.2 ⟨_, hread⟩, by rw [Reference.components, hread]⟩
  · obtain ⟨components, hread⟩ := isValid_iff.1 hvalid
    rw [Reference.components, hread]
    exact ((path_eq_ok_iff hpath).1 hread).2.2.symm
  · have hread := path_ofFlagData hname
    refine ⟨isValid_iff.2 ⟨_, hread⟩, ?_, ?_, ?_⟩
    · rw [depth, components, hread]
      rfl
    · rw [components, hread]
      rfl
    · rw [isKind, components, hread]
      simp

/-- A path with escapes next to each other, and a name that looks like a path. -/
theorem escaping_exact_awkward :
    (⟨"/a~1b/~01"⟩ : Reference).components = ["a/b", "~1"] ∧
      "/" ++ "/".intercalate (["a/b", "~1"].map escapeText) = "/a~1b/~01" ∧
      (⟨"/a~1b/~/"⟩ : Reference).isValid = false ∧
      (ofFlagData "/a~b" false).text = "/~1a~0b" ∧
      (ofFlagData "/a~b" false).components[0]? = some "/a~b" := by
  obtain ⟨-, -, hwritten, hreread, hname⟩ := escaping_exact
  have hcomponents : (⟨"/a~1b/~01"⟩ : Reference).components = ["a/b", "~1"] :=
    (hwritten ["a/b", "~1"] (by decide) (by decide)).2
  refine ⟨hcomponents, ?_, by decide +kernel, by decide +kernel, (hname "/a~b" (by decide)).2.2.1⟩
  rw [← hcomponents]
  exact hreread "/a~1b/~01" (by decide +kernel) (by decide +kernel)

end Reference

end FeatureFlags
