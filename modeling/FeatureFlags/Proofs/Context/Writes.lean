import FeatureFlags.Proofs.Context.WellFormed

/-!
# Writing to a builder

Whatever a builder is asked to do, in whatever order, only one thing counts for an attribute: the
value that was accepted last under its name.  The setters write the same, so that it does not matter
which of them is used; a value that is refused may as well not have been given; and what is written
under one name is not seen under another.

The built-in attributes and the custom ones are kept in different places, and each of the first in a
place of its own.  So the argument does not go through the fields of a builder.  It goes through the
attribute of a name, wherever it is kept: one lemma says what a call does to it, and a sequence of
calls then does what the last of them does that writes to the name.  The result of building is
determined by the attributes, and the checks look at two of them.

Building leaves the builder as it was.  It is one of the calls here, so that what is said of a
transcript holds of each result of building, in between as well as at the end.

## What is here

* `ContextBuilder.Call`, `ContextBuilder.transcript`: calls and what they return.
* `ContextBuilder.takes`, `lastAccepted?`, `final?`: which values are accepted, the last of them,
  and what is left of it.
* `ContextBuilder.BuildsFrom`: what building gives, said through the attributes alone.
* `ContextBuilder.transcript_lastWrite`: the theorem.
-/

set_option autoImplicit false

namespace FeatureFlags

namespace ContextBuilder

/-! ## Calls -/

/-- What can be asked of a builder. -/
inductive Call where
  | kind (kind : String)
  | key (key : String)
  | name (name : String)
  | anonymous (anonymous : Bool)
  | setBool (name : String) (value : Bool)
  | setNumber (name : String) (value : Double)
  | setString (name value : String)
  | setValue (name : String) (value : AttributeValue)
  | trySetValue (name : String) (value : AttributeValue)
  | build

/-- What is returned by a call.  Most setters do not tell what has become of the value. -/
inductive Reply where
  | nothing
  | accepted (accepted : Bool)
  | built (result : Except BuildError Context)

/-- The builder after a call. -/
def call (b : ContextBuilder) : Call → ContextBuilder
  | .kind kind => b.withKind kind
  | .key key => b.withKey key
  | .name name => b.withName name
  | .anonymous anonymous => b.withAnonymous anonymous
  | .setBool name value => b.setBool name value
  | .setNumber name value => b.setNumber name value
  | .setString name value => b.setString name value
  | .setValue name value => b.set name value
  | .trySetValue name value => b.set name value
  | .build => b

/-- What a call of the builder returns. -/
def reply (b : ContextBuilder) : Call → Reply
  | .trySetValue name value => .accepted (b.set? name value).isSome
  | .build => .built b.build
  | _ => .nothing

/-- The builder after calls in turn. -/
def after (b : ContextBuilder) (calls : List Call) : ContextBuilder := calls.foldl call b

/-- Calls in turn, each with what it returns. -/
def transcript (b : ContextBuilder) : List Call → List (Call × Reply)
  | [] => []
  | c :: rest => (c, b.reply c) :: (b.call c).transcript rest

/-- The results of building in a transcript. -/
def results (transcript : List (Call × Reply)) : List (Except BuildError Context) :=
  transcript.filterMap fun
    | (_, .built result) => some result
    | _ => none

/-! ## What is written -/

/-- What a call is to write, and under which name. -/
def Call.write? : Call → Option (String × AttributeValue)
  | .kind s => some ("kind", .string s)
  | .key s => some ("key", .string s)
  | .name s => some ("name", .string s)
  | .anonymous x => some ("anonymous", .bool x)
  | .setBool a x => some (a, .bool x)
  | .setNumber a x => some (a, .number x)
  | .setString a s => some (a, .string s)
  | .setValue a value => some (a, value)
  | .trySetValue a value => some (a, value)
  | .build => none

/-- Whether a name takes a value.  Custom attributes take any. -/
def takes (name : String) (value : AttributeValue) : Bool :=
  match name with
  | "kind" => value.asString?.isSome
  | "key" => value.asString?.isSome
  | "name" => value.asString?.isSome || value.nonNull?.isNone
  | "anonymous" => value.asBool?.isSome
  | "_meta" => false
  | "" => false
  | _ => true

/-- Whether a call is to write something that its name does not take. -/
def Call.isRefused (c : Call) : Bool := c.write?.any fun w => !takes w.1 w.2

/-- Whether a call is to write under a name. -/
def Call.writesTo (name : String) (c : Call) : Bool := c.write?.any fun w => w.1 == name

/-- The value that a call gives to a name. -/
def Call.accepted? (name : String) (c : Call) : Option AttributeValue :=
  (c.write?.filter fun w => w.1 == name && takes w.1 w.2).map Prod.snd

/-- The value accepted last for a name. -/
def lastAccepted? (name : String) (calls : List Call) : Option AttributeValue :=
  calls.reverse.findSome? (Call.accepted? name)

/-- The attributes of a builder of which nothing but the key is known. -/
def initial? (key name : String) : Option AttributeValue :=
  match name with
  | "kind" => some (.string "user")
  | "key" => some (.string key)
  | "anonymous" => some (.bool false)
  | _ => none

/-- What a name stands for after calls: the value accepted last, unless that is null, or what it has
stood for from the beginning. -/
def final? (key : String) (calls : List Call) (name : String) : Option AttributeValue :=
  (lastAccepted? name calls).elim (initial? key name) AttributeValue.nonNull?

/-- What building gives after calls.  It fails just if the kind is no valid one at the end or the
key is empty, and then the kind comes first.  Otherwise it gives an entity with all attributes as
they are at the end, and no others. -/
structure BuildsFrom (givenKey : String) (calls : List Call) (result : Except BuildError Context)
    (finalKind finalKey : String) : Prop where
  kind : final? givenKey calls "kind" = some (.string finalKind)
  key : final? givenKey calls "key" = some (.string finalKey)
  fails_iff : (∃ error, result = .error error) ↔ ¬ Kind.Valid finalKind ∨ finalKey = ""
  of_kind : ∀ error, Kind.ofString finalKind = .error error → result = .error (.kind error)
  of_key : Kind.Valid finalKind → finalKey = "" → result = .error .emptyKey
  entity : ∀ c, result = .ok c → ∃ e : Entity, c = .single e ∧ e.WellFormed ∧ e.secondary = none ∧
    ∀ name, e.attribute? name = final? givenKey calls name

/-! ## One value -/

variable {b : ContextBuilder} {name key : String} {value : AttributeValue} {c : Call}
  {calls : List Call}

/-- A name is one of those with rules of their own, or that of a custom attribute. -/
theorem name_cases (name : String) :
    name = "" ∨ name = "_meta" ∨ name = "kind" ∨ name = "key" ∨ name = "name" ∨
      name = "anonymous" ∨ (name ≠ "" ∧ isReserved name = false) := by
  by_cases hempty : name = ""
  · exact Or.inl hempty
  · by_cases hreserved : isReserved name = true
    · simp only [isReserved, Bool.or_eq_true, beq_iff_eq] at hreserved
      tauto
    · simp [hempty, hreserved]

theorem takes_of_custom (hne : name ≠ "") (hcustom : isReserved name = false) :
    takes name value = true := by
  simp only [isReserved, Bool.or_eq_false_iff, beq_eq_false_iff_ne] at hcustom
  unfold takes
  split <;> simp_all

/-- **A value is accepted just if its name takes it**, whatever the builder knows. -/
theorem isSome_set? : (b.set? name value).isSome = takes name value := by
  rcases name_cases name with rfl | rfl | rfl | rfl | rfl | rfl | ⟨hne, hcustom⟩
  case inr.inr.inr.inr.inr.inr => rw [set?_of_custom hne hcustom, takes_of_custom hne hcustom]; rfl
  all_goals cases value <;> rfl

/-- What is refused changes nothing. -/
theorem set_of_not_takes (h : takes name value = false) : b.set name value = b := by
  have hsome : (b.set? name value).isSome = false := isSome_set?.trans h
  rw [set, Option.isNone_iff_eq_none.1 (Option.isSome_eq_false_iff.1 hsome), Option.getD_none]

/-- What is known of an attribute, wherever it is kept. -/
def attribute? (b : ContextBuilder) (name : String) : Option AttributeValue :=
  match name with
  | "kind" => some (.string b.kind)
  | "key" => some (.string b.key)
  | "name" => b.name.map .string
  | "anonymous" => some (.bool b.anonymous)
  | _ => b.attributes.find? name

theorem attribute?_withKind (kind : String) :
    (b.withKind kind).attribute? key =
      if "kind" = key then some (.string kind) else b.attribute? key := by
  unfold attribute?
  split <;> simp_all [withKind, eq_comm]

theorem attribute?_withKey (key' : String) :
    (b.withKey key').attribute? key =
      if "key" = key then some (.string key') else b.attribute? key := by
  unfold attribute?
  split <;> simp_all [withKey, eq_comm]

theorem attribute?_withName (name : Option String) :
    ({ b with name } : ContextBuilder).attribute? key =
      if "name" = key then name.map .string else b.attribute? key := by
  unfold attribute?
  split <;> simp_all [eq_comm]

theorem attribute?_withAnonymous (anonymous : Bool) :
    (b.withAnonymous anonymous).attribute? key =
      if "anonymous" = key then some (.bool anonymous) else b.attribute? key := by
  unfold attribute?
  split <;> simp_all [withAnonymous, eq_comm]

theorem attribute?_assign (hcustom : isReserved name = false) :
    (b.assignAll [(name, value)]).attribute? key =
      if name = key then value.nonNull? else b.attribute? key := by
  simp only [isReserved, Bool.or_eq_false_iff, beq_eq_false_iff_ne] at hcustom
  unfold attribute?
  split <;> simp_all [assignAll, SortedMap.assignAll, SortedMap.find?_assign]

/-- **What setting one attribute does to another**: nothing, and to itself nothing if the value is
refused. -/
theorem attribute?_set :
    (b.set name value).attribute? key =
      if name = key ∧ takes name value = true then value.nonNull? else b.attribute? key := by
  by_cases htakes : takes name value = true
  · simp only [htakes, and_true]
    rcases name_cases name with rfl | rfl | rfl | rfl | rfl | rfl | ⟨hne, hcustom⟩
    · cases htakes
    · cases htakes
    · cases value with
      | string kind => exact attribute?_withKind kind
      | _ => cases htakes
    · cases value with
      | string key' => exact attribute?_withKey key'
      | _ => cases htakes
    · cases value with
      | string name => exact attribute?_withName (some name)
      | null => exact attribute?_withName none
      | _ => cases htakes
    · cases value with
      | bool anonymous => exact attribute?_withAnonymous anonymous
      | _ => cases htakes
    · rw [set, set?_of_custom hne hcustom, Option.getD_some, attribute?_assign hcustom]
  · rw [set_of_not_takes (eq_false_of_ne_true htakes), if_neg fun h => htakes h.2]

/-! ## One call -/

/-- **A call does what it is to write**, whichever setter it uses. -/
theorem call_eq : b.call c = c.write?.elim b fun w => b.set w.1 w.2 := by
  cases c <;> rfl

theorem call_of_isRefused (h : c.isRefused = true) : b.call c = b := by
  rw [call_eq]
  cases hw : c.write? with
  | none => rfl
  | some w => exact set_of_not_takes (by simpa [Call.isRefused, hw] using h)

/-- **What a call does to an attribute**: it stands for the value accepted by the call, if there is
one. -/
theorem attribute?_call :
    (b.call c).attribute? name =
      (c.accepted? name).elim (b.attribute? name) AttributeValue.nonNull? := by
  rw [call_eq, Call.accepted?]
  cases c.write? with
  | none => rfl
  | some w =>
    rw [Option.elim_some, attribute?_set, Option.filter_some]
    simp only [Bool.and_eq_true, beq_iff_eq]
    split <;> rfl

theorem secondary_call : (b.call c).secondary = b.secondary := by
  rw [call_eq]
  cases c.write? with
  | none => rfl
  | some w =>
    rw [Option.elim_some, set]
    cases hset : b.set? w.1 w.2 with
    | none => rfl
    | some b' =>
      unfold set? at hset
      split at hset
      case h_1 => cases hset
      case h_7 =>
        split at hset
        · cases hset
        · split at hset <;> cases hset <;> rfl
      all_goals
        cases hset
        rfl

theorem Obtainable.call (h : b.Obtainable) (c : Call) : (b.call c).Obtainable := by
  rw [call_eq]
  cases c.write? with
  | none => exact h
  | some w => exact h.set w.1 w.2

/-! ## Calls in turn -/

theorem Obtainable.after (h : b.Obtainable) (calls : List Call) : (b.after calls).Obtainable := by
  induction calls generalizing b with
  | nil => exact h
  | cons c rest ih => exact ih (h.call c)

theorem secondary_after : (b.after calls).secondary = b.secondary := by
  induction calls generalizing b with
  | nil => rfl
  | cons c rest ih => exact ih.trans secondary_call

theorem lastAccepted?_cons :
    lastAccepted? name (c :: calls) = (lastAccepted? name calls).or (c.accepted? name) := by
  simp [lastAccepted?, List.findSome?_append]

/-- **Of all calls, the last that is accepted counts.** -/
theorem attribute?_after :
    (b.after calls).attribute? name =
      (lastAccepted? name calls).elim (b.attribute? name) AttributeValue.nonNull? := by
  induction calls generalizing b with
  | nil => rfl
  | cons c rest ih =>
    rw [after, List.foldl_cons, ← after, ih, attribute?_call, lastAccepted?_cons]
    cases lastAccepted? name rest <;> rfl

theorem attribute?_ofKey : (ofKey key).attribute? name = initial? key name := by
  unfold attribute? initial?
  split <;> simp_all [ofKey, Kind.user]

theorem attribute?_after_ofKey :
    ((ofKey key).after calls).attribute? name = final? key calls name := by
  rw [attribute?_after, attribute?_ofKey, final?]

/-! ## Transcripts -/

theorem exists_reply_of_mem {p : Call × Reply} (h : p ∈ b.transcript calls) :
    ∃ b' : ContextBuilder, p.2 = b'.reply p.1 := by
  induction calls generalizing b with
  | nil => cases h
  | cons c rest ih =>
    rcases List.mem_cons.1 h with rfl | h
    · exact ⟨b, rfl⟩
    · exact ih h

/-- Calls that are refused can be left out, and nothing else is returned by the others. -/
theorem transcript_filter :
    b.transcript (calls.filter fun c => !c.isRefused) =
      (b.transcript calls).filter fun p => !p.1.isRefused := by
  induction calls generalizing b with
  | nil => rfl
  | cons c rest ih =>
    rw [transcript]
    by_cases hrefused : c.isRefused = true
    · rw [List.filter_cons_of_neg (by simpa using hrefused),
        List.filter_cons_of_neg (by simpa using hrefused), call_of_isRefused hrefused, ih]
    · rw [List.filter_cons_of_pos (by simpa using hrefused),
        List.filter_cons_of_pos (by simpa using hrefused), transcript, ih]

theorem length_transcript : (b.transcript calls).length = calls.length := by
  induction calls generalizing b with
  | nil => rfl
  | cons c rest ih => rw [transcript, List.length_cons, ih, List.length_cons]

theorem transcript_append (before rest : List Call) :
    b.transcript (before ++ rest) = b.transcript before ++ (b.after before).transcript rest := by
  induction before generalizing b with
  | nil => rfl
  | cons c before ih =>
    rw [List.cons_append, transcript, ih, transcript, List.cons_append]
    rfl

/-- What building returns is what the calls before it have led to. -/
theorem getElem?_transcript_build (before rest : List Call) :
    (b.transcript (before ++ .build :: rest))[before.length]? =
      some (.build, .built (b.after before).build) := by
  rw [transcript_append, ← length_transcript (b := b), List.getElem?_append_right (Nat.le_refl _),
    Nat.sub_self]
  rfl

theorem results_cons : results (b.transcript (c :: calls)) =
    (if c.write? = none then [b.build] else []) ++ results ((b.call c).transcript calls) := by
  cases c <;> rfl

/-- Calls that are to write the same give the same results of building, all along the way. -/
theorem results_congr {calls' : List Call} (h : calls.map Call.write? = calls'.map Call.write?) :
    results (b.transcript calls) = results (b.transcript calls') := by
  induction calls generalizing b calls' with
  | nil => rw [List.map_eq_nil_iff.1 h.symm]
  | cons c rest ih =>
    obtain ⟨c', rest', rfl, hc, hrest⟩ := List.map_eq_cons_iff.1 h.symm
    rw [results_cons, results_cons, call_eq, call_eq, hc, ih hrest.symm]

/-! ## Building -/

theorem attribute?_of_entity {e : Entity} (h : b.entity = .ok e) :
    e.attribute? name = b.attribute? name := by
  obtain ⟨kind, hkind, -, rfl⟩ := entity_eq_ok_iff.1 h
  unfold Entity.attribute? attribute?
  split <;> simp [hkind]

theorem build_eq_ok_iff {c : Context} :
    b.build = .ok c ↔ ∃ e : Entity, b.entity = .ok e ∧ c = .single e := by
  rw [build, Decode.map_eq_ok_iff]
  simp only [eq_comm]

theorem build_of_kind {error : KindError} (h : Kind.ofString b.kind = .error error) :
    b.build = .error (.kind error) := by
  rw [build, ContextBuilder.entity, h]
  rfl

theorem build_of_key (hkind : Kind.Valid b.kind) (hkey : b.key = "")
    (hallowed : b.allowsEmptyKey = false) : b.build = .error .emptyKey := by
  have hok : Kind.ofString b.kind = .ok ⟨b.kind, hkind⟩ := Kind.ofString_eq_ok_iff.2 rfl
  rw [build, ContextBuilder.entity, hok, hkey, hallowed]
  rfl

/-- Calls of a fresh builder build what the values accepted last say. -/
theorem buildsFrom (key : String) (calls : List Call) :
    let b := (ofKey key).after calls
    BuildsFrom key calls b.build b.kind b.key := by
  intro b
  have hwellFormed : b.WellFormed := (Obtainable.after (.ofKey key) calls).wellFormed
  have hattribute (name : String) : b.attribute? name = final? key calls name :=
    attribute?_after_ofKey
  have hok {c : Context} (hc : b.build = .ok c) :
      ∃ e : Entity, b.entity = .ok e ∧ c = .single e := build_eq_ok_iff.1 hc
  refine ⟨(hattribute "kind").symm, (hattribute "key").symm, ⟨?_, ?_⟩, fun _ => build_of_kind,
    fun hkind hkey => build_of_key hkind hkey hwellFormed.key, fun c hc => ?_⟩
  · rintro ⟨error, herror⟩
    refine Decidable.or_iff_not_not_and_not.2 fun ⟨hkind, hkey⟩ => ?_
    have hname : (⟨b.kind, Decidable.of_not_not hkind⟩ : Kind).name = b.kind := rfl
    rw [build_eq_ok_iff.2 ⟨_, entity_of_kind hname (Or.inl hkey), rfl⟩] at herror
    cases herror
  · intro hbad
    cases hbuild : b.build with
    | error error => exact ⟨error, rfl⟩
    | ok c =>
      obtain ⟨e, he, -⟩ := hok hbuild
      obtain ⟨kind, hkind, hkey, -⟩ := entity_eq_ok_iff.1 he
      rcases hbad with hbad | hbad
      · exact absurd (hkind ▸ kind.valid) hbad
      · rw [hwellFormed.key] at hkey
        exact absurd hbad (hkey.resolve_right Bool.false_ne_true)
  · obtain ⟨e, he, rfl⟩ := hok hc
    refine ⟨e, rfl, Entity.wellFormed_of_entity_eq_ok hwellFormed he, ?_, fun name => ?_⟩
    · obtain ⟨kind, -, -, rfl⟩ := entity_eq_ok_iff.1 he
      exact secondary_after
    · rw [attribute?_of_entity he, hattribute]

/-- The value accepted last for a name depends on the calls that write to it alone. -/
theorem lastAccepted?_filter :
    lastAccepted? name (calls.filter (Call.writesTo name)) = lastAccepted? name calls := by
  induction calls with
  | nil => rfl
  | cons c rest ih =>
    by_cases hwrites : c.writesTo name = true
    · rw [List.filter_cons_of_pos hwrites, lastAccepted?_cons, lastAccepted?_cons, ih]
    · have hnone : c.accepted? name = none := by
        rw [Call.writesTo] at hwrites
        rw [Call.accepted?]
        cases hw : c.write? with
        | none => rfl
        | some w => simp_all
      rw [List.filter_cons_of_neg hwrites, lastAccepted?_cons, ih, hnone, Option.or_none]

/-- With a valid kind and a key at the end, an entity is built. -/
theorem BuildsFrom.exists_entity {givenKey finalKind finalKey : String}
    {result : Except BuildError Context} (h : BuildsFrom givenKey calls result finalKind finalKey)
    (hkind : Kind.Valid finalKind) (hkey : finalKey ≠ "") : ∃ e : Entity,
      result = .ok (.single e) ∧ ∀ name, e.attribute? name = final? givenKey calls name := by
  cases result with
  | error error =>
    rcases h.fails_iff.1 ⟨error, rfl⟩ with hinvalid | hempty
    · exact absurd hkind hinvalid
    · exact absurd hempty hkey
  | ok c =>
    obtain ⟨e, rfl, -, -, hattribute⟩ := h.entity c rfl
    exact ⟨e, rfl, hattribute⟩

/-- **The last accepted write wins**, whatever a builder is asked to do.  Whether a value is
accepted depends on the name and on the value alone.  What is refused may as well not have been
given: all other calls return the same without it.  Building, at any point, gives the attributes as
they have been accepted last, and fails just if there is no valid kind or no key then, with the kind
first.  An attribute is the same after any other calls that write the same to its own name.  And it
does not matter by which setter something is written. -/
theorem transcript_lastWrite (key : String) (calls : List Call) :
    (∀ name value reply, (.trySetValue name value, reply) ∈ (ofKey key).transcript calls →
      reply = .accepted (takes name value)) ∧
    (ofKey key).transcript (calls.filter fun c => !c.isRefused) =
      ((ofKey key).transcript calls).filter (fun p => !p.1.isRefused) ∧
    (∀ before rest, calls = before ++ .build :: rest → ∃ result finalKind finalKey,
      ((ofKey key).transcript calls)[before.length]? = some (.build, .built result) ∧
        BuildsFrom key before result finalKind finalKey) ∧
    (∀ calls' name d e,
      calls.filter (Call.writesTo name) = calls'.filter (Call.writesTo name) →
      ((ofKey key).after calls).build = .ok (.single d) →
      ((ofKey key).after calls').build = .ok (.single e) →
        d.attribute? name = e.attribute? name) ∧
    ∀ calls', calls.map Call.write? = calls'.map Call.write? →
      results ((ofKey key).transcript calls) = results ((ofKey key).transcript calls') := by
  refine ⟨fun name value reply h => ?_, transcript_filter, ?_, fun calls' name d e h hd he => ?_,
    fun calls' h => results_congr h⟩
  · obtain ⟨b', hreply⟩ := exists_reply_of_mem h
    exact hreply.trans (congrArg Reply.accepted isSome_set?)
  · rintro before rest rfl
    exact ⟨_, _, _, getElem?_transcript_build before rest, buildsFrom key before⟩
  · have hattribute {calls : List Call} {e : Entity}
        (he : ((ofKey key).after calls).build = .ok (.single e)) :
        e.attribute? name = final? key calls name := by
      obtain ⟨_, he', ⟨⟩⟩ := build_eq_ok_iff.1 he
      rw [attribute?_of_entity he', attribute?_after_ofKey]
    rw [hattribute hd, hattribute he, final?, final?, ← lastAccepted?_filter, h,
      lastAccepted?_filter]

/-- What is known of a device before its plan is taken away again. -/
def planned : List Call :=
  [.kind "device", .setString "plan" "pro", .trySetValue "kind" (.bool true)]

/-- Calls that build the device with the plan and without it. -/
def hesitant : List Call :=
  planned ++ [.build, .setValue "plan" .null, .setString "_meta" "m", .build]

/-- The kind is not to be a truth value, and the plan is there when the device is built first and not
when it is built again. -/
theorem transcript_lastWrite_hesitant :
    (.trySetValue "kind" (.bool true), .accepted false) ∈ (ofKey "d").transcript hesitant ∧
      ∃ d e : Entity,
        ((ofKey "d").transcript hesitant)[3]? = some (.build, .built (.ok (.single d))) ∧
        d.attribute? "kind" = some (.string "device") ∧
        d.attribute? "plan" = some (.string "pro") ∧ d.attribute? "_meta" = none ∧
        ((ofKey "d").transcript hesitant)[6]? = some (.build, .built (.ok (.single e))) ∧
        e.attribute? "kind" = some (.string "device") ∧
        e.attribute? "plan" = none ∧ e.attribute? "_meta" = none := by
  obtain ⟨hreplies, -, hbuilds, -, -⟩ := transcript_lastWrite "d" hesitant
  have hmem : ∃ reply, (.trySetValue "kind" (.bool true), reply) ∈
      (ofKey "d").transcript hesitant := ⟨_, List.mem_of_getElem? (i := 2) rfl⟩
  obtain ⟨reply, hreply⟩ := hmem
  have hrefused : reply = .accepted (takes "kind" (.bool true)) := hreplies _ _ _ hreply
  obtain ⟨first, _, _, hfirst, hfrom⟩ := hbuilds planned _ rfl
  obtain ⟨second, _, _, hsecond, hagain⟩ := hbuilds
    (planned ++ [.build, .setValue "plan" .null, .setString "_meta" "m"]) [] rfl
  cases hfrom.kind
  cases hfrom.key
  cases hagain.kind
  cases hagain.key
  obtain ⟨d, rfl, hd⟩ := hfrom.exists_entity (by decide) (by decide)
  obtain ⟨e, rfl, he⟩ := hagain.exists_entity (by decide) (by decide)
  exact ⟨hrefused ▸ hreply, d, e, hfirst, hd "kind", hd "plan", hd "_meta",
    hsecond, he "kind", he "plan", he "_meta"⟩

end ContextBuilder

end FeatureFlags
