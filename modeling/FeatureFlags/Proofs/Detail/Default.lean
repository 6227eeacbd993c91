import FeatureFlags.Evaluation.Detail
import FeatureFlags.Flag.Value

/-!
# Defaults in place of values

An answer goes through any number of conversions and defaults before it is served, and at the end
one would like to know whether its value is still that of the flag.  The index is meant to tell: it
is the place of the value among the variations, so a default should have none.

Values do not say where they come from, and a default may well equal the value that it replaces.
So the same operations are run once more on values with a mark, which says what the value is.  They
cannot see the mark, and without the marks the second run is the first one.  What the marks say is
tied to the operations from outside as well: a value is the answer's own just if there was one and
every conversion has accepted it.

The index does what it is meant to do but for one case.  A conversion that finds no value puts in
its default and leaves the index alone, unlike `or`, which takes it away.  So the default has an
index just if an answer without a value had one.  Evaluations make no such answers.

## What is here

* `Detail.Operation`, `Detail.Operations`: what can be done to an answer, once and in turn.
* `Detail.Origin`, `Detail.Traced`: marks, and values with them.
* `Detail.Operations.trace`: the operations on values with marks.
* `Detail.Operations.index_apply`: the theorem.
-/

set_option autoImplicit false

namespace FeatureFlags

namespace Detail

variable {α β γ : Type}

/-! ## Operations -/

/-- What can be done to an answer, which may change the type of its value. -/
inductive Operation : Type → Type → Type 1
  | map {α β : Type} (f : α → β) : Operation α β
  | tryMap {α β : Type} (f : α → Option β) (default : β) (kind : ErrorKind) : Operation α β
  | or {α : Type} (default : α) : Operation α α
  | orElse {α : Type} (default : Unit → α) : Operation α α
  | shouldHaveValue {α : Type} (kind : ErrorKind) : Operation α α

/-- Operations in turn. -/
inductive Operations : Type → Type → Type 1
  | nil {α : Type} : Operations α α
  | cons {α β γ : Type} (op : Operation α β) (rest : Operations β γ) : Operations α γ

/-- An answer after an operation. -/
def Operation.apply : Operation α β → Detail α → Detail β
  | map f, d => d.map f
  | tryMap f default kind, d => d.tryMap f default kind
  | or default, d => d.or default
  | orElse default, d => d.orElse default
  | shouldHaveValue kind, d => d.shouldHaveValue kind

/-- An answer after operations in turn. -/
def Operations.apply : {α β : Type} → Operations α β → Detail α → Detail β
  | _, _, nil, d => d
  | _, _, cons op rest, d => rest.apply (op.apply d)

/-- What an operation makes of a value, unless it refuses it. -/
def Operation.convert? : Operation α β → α → Option β
  | map f, a => some (f a)
  | tryMap f _ _, a => f a
  | or _, a => some a
  | orElse _, a => some a
  | shouldHaveValue _, a => some a

/-- What operations in turn make of a value, unless one of them refuses it. -/
def Operations.convert? : {α β : Type} → Operations α β → α → Option β
  | _, _, nil, a => some a
  | _, _, cons op rest, a => (op.convert? a).bind rest.convert?

/-! ## Marks -/

/-- Where the value of an answer comes from: it is the answer's own, or a default that has been put
in for a missing value, for a value that a conversion refused, or by a conversion for want of a
value.  What later conversions make of a value is of the same origin. -/
inductive Origin where
  | own
  | offered
  | refused
  | unconverted
  deriving DecidableEq

/-- A value with its origin. -/
structure Traced (α : Type) where
  value : α
  origin : Origin

/-- The answer with its own value marked. -/
def traced (d : Detail α) : Detail (Traced α) := d.map (⟨·, .own⟩)

/-- An operation on values with marks.  The values are converted and keep their marks, the defaults
bring their own. -/
def Operation.trace : Operation α β → Detail (Traced α) → Detail (Traced β)
  | map f, t => t.map fun v => ⟨f v.value, v.origin⟩
  | tryMap f default kind, t =>
    t.tryMap (fun v => (f v.value).map (⟨·, v.origin⟩))
      ⟨default, if t.value.isSome then .refused else .unconverted⟩ kind
  | or default, t => t.or ⟨default, .offered⟩
  | orElse default, t => t.orElse fun _ => ⟨default (), .offered⟩
  | shouldHaveValue kind, t => t.shouldHaveValue kind

/-- Operations in turn on values with marks. -/
def Operations.trace : {α β : Type} → Operations α β → Detail (Traced α) → Detail (Traced β)
  | _, _, nil, t => t
  | _, _, cons op rest, t => rest.trace (op.trace t)

/-! ## Marks change nothing -/

theorem Operation.map_value_trace (op : Operation α β) (t : Detail (Traced α)) :
    (op.trace t).map Traced.value = op.apply (t.map Traced.value) := by
  obtain ⟨value, index, reason, status⟩ := t
  cases op with
  | map f => cases value <;> rfl
  | tryMap f default kind =>
    cases value with
    | none => rfl
    | some v =>
      simp only [trace, apply, Detail.tryMap, Detail.map, Option.map_some]
      cases f v.value <;> rfl
  | or default => cases value <;> rfl
  | orElse default => cases value <;> rfl
  | shouldHaveValue kind => cases value <;> rfl

/-- **Without the marks, the values are what they are anyway.** -/
theorem Operations.map_value_trace (ops : Operations α β) (t : Detail (Traced α)) :
    (ops.trace t).map Traced.value = ops.apply (t.map Traced.value) := by
  induction ops with
  | nil => rfl
  | cons op rest ih => rw [trace, apply, ih, op.map_value_trace]

/-! ## What the marks say -/

theorem Operation.value_trace_own_iff {op : Operation α β} {t : Detail (Traced α)} {b : β} :
    (op.trace t).value = some ⟨b, .own⟩ ↔
      ∃ a, t.value = some ⟨a, .own⟩ ∧ op.convert? a = some b := by
  obtain ⟨value, index, reason, status⟩ := t
  cases value with
  | none => cases op <;> simp [trace, Detail.map, Detail.tryMap, Detail.or, Detail.orElse,
      Detail.shouldHaveValue]
  | some v =>
    obtain ⟨a, origin⟩ := v
    cases op with
    | map f => simpa [trace, convert?, Detail.map, and_assoc] using and_comm
    | tryMap f default kind =>
      cases hf : f a with
      | none => simp [trace, convert?, Detail.tryMap, errDefault, hf, and_assoc]
      | some c => simpa [trace, convert?, Detail.tryMap, hf, and_assoc] using and_comm
    | or default => simp [trace, convert?, Detail.or]
    | orElse default => simp [trace, convert?, Detail.orElse]
    | shouldHaveValue kind => simp [trace, convert?, Detail.shouldHaveValue]

/-- A value is still the answer's own just if all operations have accepted it in turn. -/
theorem Operations.value_trace_own_iff {ops : Operations α β} {t : Detail (Traced α)} {b : β} :
    (ops.trace t).value = some ⟨b, .own⟩ ↔
      ∃ a, t.value = some ⟨a, .own⟩ ∧ ops.convert? a = some b := by
  induction ops with
  | nil => simp [trace, convert?]
  | cons op rest ih =>
    simp only [trace, ih, op.value_trace_own_iff, convert?, Option.bind_eq_some_iff]
    constructor
    · rintro ⟨c, ⟨a, ha, hc⟩, hb⟩
      exact ⟨a, ha, c, hc, hb⟩
    · rintro ⟨a, ha, c, hc, hb⟩
      exact ⟨c, ⟨a, ha, hc⟩, hb⟩

/-! ## The index -/

/-- What a value of the given origin has for an index, if the answer had the given one. -/
def Origin.index? (index : Option Nat) : Origin → Option Nat
  | own => index
  | offered => none
  | refused => none
  | unconverted => index

/-- What the operations keep true of the answer that they began with. -/
structure Accounts (d : Detail α) (t : Detail (Traced β)) : Prop where
  status : t.status = d.status
  index : t.index = t.value.elim d.index fun v => v.origin.index? d.index
  own : ∀ v, t.value = some v → v.origin = .own → t.reason = d.reason
  unconverted : ∀ v, t.value = some v → v.origin = .unconverted → d.value = none
  missing : t.value = none → d.value = none

theorem accounts_traced (d : Detail α) : d.Accounts d.traced := by
  obtain ⟨value, index, reason, status⟩ := d
  cases value with
  | none => exact ⟨rfl, rfl, nofun, nofun, fun _ => rfl⟩
  | some a =>
    refine ⟨rfl, rfl, fun _ _ _ => rfl, fun v hv horigin => ?_, nofun⟩
    cases hv
    cases horigin

/-- A default leaves the status alone and has the index of its origin. -/
theorem Accounts.substitute {d : Detail α} {t : Detail (Traced β)} (h : d.Accounts t) (b : γ)
    (origin : Origin) {reason : Reason} (hown : origin ≠ .own)
    (hunconverted : origin = .unconverted → t.value = none) :
    d.Accounts ⟨some ⟨b, origin⟩, origin.index? d.index, reason, t.status⟩ := by
  refine ⟨h.status, rfl, fun v hv horigin => ?_, fun v hv horigin => ?_, nofun⟩
  · cases hv
    exact absurd horigin hown
  · cases hv
    exact h.missing (hunconverted horigin)

/-- What is converted keeps its mark, and with it the index. -/
theorem Accounts.convert {d : Detail α} {t : Detail (Traced β)} (h : d.Accounts t)
    {v : Traced β} (hv : t.value = some v) (c : γ) :
    d.Accounts ⟨some ⟨c, v.origin⟩, t.index, t.reason, t.status⟩ := by
  refine ⟨h.status, by rw [h.index, hv]; rfl, fun w hw horigin => ?_, fun w hw horigin => ?_, nofun⟩
  · cases hw
    exact h.own v hv horigin
  · cases hw
    exact h.unconverted v hv horigin

theorem Accounts.step {d : Detail α} {t : Detail (Traced β)} (h : d.Accounts t)
    (op : Operation β γ) : d.Accounts (op.trace t) := by
  obtain ⟨value, index, reason, status⟩ := t
  cases value with
  | none =>
    -- the only case in which a default comes in, but for a refusal
    have hindex : index = d.index := h.index
    cases op with
    | map f => exact ⟨h.status, h.index, nofun, nofun, fun _ => h.missing rfl⟩
    | tryMap f default kind =>
      subst hindex
      exact h.substitute default .unconverted nofun fun _ => rfl
    | or default => exact h.substitute default .offered nofun nofun
    | orElse default => exact h.substitute (default ()) .offered nofun nofun
    | shouldHaveValue kind => exact ⟨h.status, h.index, nofun, nofun, fun _ => h.missing rfl⟩
  | some v =>
    cases op with
    | map f => exact h.convert rfl (f v.value)
    | tryMap f default kind =>
      simp only [Operation.trace, Detail.tryMap]
      cases f v.value with
      | none => exact h.substitute default .refused nofun nofun
      | some c => exact h.convert rfl c
    | or default => exact h
    | orElse default => exact h
    | shouldHaveValue kind => exact h

theorem Accounts.run {d : Detail α} {t : Detail (Traced β)} (h : d.Accounts t)
    (ops : Operations β γ) : d.Accounts (ops.trace t) := by
  induction ops with
  | nil => exact h
  | cons op rest ih => exact ih (h.step op)

namespace Operations

/-- **What the index of an answer says**, whatever has been done to it.  The status is always that
of the answer.  The value is still its own just if there was one and all conversions have accepted
it; index and reason are then its own too.  A default that was put in for a missing value, or for a
value that a conversion refused, has no index.  A default that a conversion put in for want of a
value has the index of the answer, which had no value; so if answers without a value have no index,
then no default ever has one. -/
theorem index_apply (d : Detail α) (ops : Operations α β) :
    (ops.trace d.traced).map Traced.value = ops.apply d ∧
    (ops.apply d).status = d.status ∧
    (∀ b, (ops.trace d.traced).value = some ⟨b, .own⟩ ↔ d.value.bind ops.convert? = some b) ∧
    (∀ b, (ops.trace d.traced).value = some ⟨b, .own⟩ →
      (ops.apply d).index = d.index ∧ (ops.apply d).reason = d.reason) ∧
    (∀ b origin, (ops.trace d.traced).value = some ⟨b, origin⟩ →
      origin = .offered ∨ origin = .refused → (ops.apply d).index = none) ∧
    (∀ b, (ops.trace d.traced).value = some ⟨b, .unconverted⟩ →
      d.value = none ∧ (ops.apply d).index = d.index) ∧
    ((d.value = none → d.index = none) → ∀ b origin,
      (ops.trace d.traced).value = some ⟨b, origin⟩ → origin ≠ .own →
        (ops.apply d).index = none) := by
  have herase : (ops.trace d.traced).map Traced.value = ops.apply d := by
    rw [map_value_trace]
    obtain ⟨_ | a, index, reason, status⟩ := d <;> rfl
  have haccounts : d.Accounts (ops.trace d.traced) := d.accounts_traced.run ops
  have hindex {v : Traced β} (hv : (ops.trace d.traced).value = some v) :
      (ops.apply d).index = v.origin.index? d.index := by
    rw [← herase]
    exact haccounts.index.trans (by rw [hv]; rfl)
  refine ⟨herase, ?_, fun b => ?_, fun b hb => ⟨hindex hb, ?_⟩, ?_,
    fun b hb => ⟨haccounts.unconverted _ hb rfl, hindex hb⟩, ?_⟩
  · rw [← herase]
    exact haccounts.status
  · rw [value_trace_own_iff, Option.bind_eq_some_iff]
    obtain ⟨_ | a, index, reason, status⟩ := d <;> simp [traced, Detail.map]
  · rw [← herase]
    exact haccounts.own _ hb rfl
  · rintro b origin hb (rfl | rfl)
    · exact hindex hb
    · exact hindex hb
  · intro hnone b origin hb hown
    cases origin with
    | own => exact absurd rfl hown
    | offered => exact hindex hb
    | refused => exact hindex hb
    | unconverted => exact (hindex hb).trans (hnone (haccounts.unconverted _ hb rfl))

/-- An answer without a value that has an index, as evaluations make none. -/
def hollow : Detail FlagValue := ⟨none, some 1, .off, some .stale⟩

/-- Reading a truth value, and a default after it. -/
def reading : Operations FlagValue FlagValue :=
  .cons (.tryMap (·.read? .bool) (.bool true) .wrongType) (.cons (.or (.bool false)) .nil)

/-- Of a text, no truth value is read, so that the default has no index; in the answer without a
value the default of the conversion comes first. -/
theorem index_apply_reading :
    (reading.apply ⟨some (.string "yes"), some 1, .off, none⟩).index = none ∧
      (reading.apply hollow).index = hollow.index ∧
      (reading.apply hollow).status = some .stale := by
  refine ⟨?_, ?_, (index_apply hollow reading).2.1⟩
  · exact (index_apply ⟨some (.string "yes"), some 1, .off, none⟩ reading).2.2.2.2.2.2
      nofun (.bool true) .refused rfl nofun
  · exact ((index_apply hollow reading).2.2.2.2.2.1 (.bool true) rfl).2

/-- The default of a conversion has an index, if there was one without a value. -/
theorem index_unconverted :
    (reading.trace hollow.traced).value = some ⟨.bool true, .unconverted⟩ ∧
      (reading.apply hollow).value = some (.bool true) ∧ (reading.apply hollow).index ≠ none :=
  ⟨rfl, rfl, nofun⟩

end Operations

end Detail

end FeatureFlags
