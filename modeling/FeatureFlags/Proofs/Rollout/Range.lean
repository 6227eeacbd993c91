import FeatureFlags.Proofs.Nesting.Graph
import FeatureFlags.Proofs.Number.Rounding

/-!
# The range of buckets

A bucket is meant to be less than one, so that a rule of a segment that weighs the whole includes
everyone.  It is not quite so.  Bits and scale are both rounded to the significand of a `Single`, and
the greatest bits are rounded up to the same number as the scale; their quotient is one.  These are
the bits from halfway between the whole and the number before it, where the tie goes to the even
significand of the whole.  In a digest they are those that begin with twenty-five ones, and there are
texts with such digests.

Rounding keeps the order, so the bits below that bound have lesser buckets, and it is enough to look
at the bound and at the bits right below it.

## What is here

* `Entity.bits`, `Entity.bucket_eq_ok_iff`: the bits that the bucket of an entity is made of.
* `bucketOfBits_magnitude_mono`, `bucketOfBits_less_one_iff`: buckets are in the order of their bits,
  and which of them are less than one.
* `bucket_range`: the range of buckets, and whom a rule includes that weighs the whole.
* `everyone_excludes`: a user whom it does not include.
-/

set_option autoImplicit false

namespace FeatureFlags

/-! ## Leading bits -/

theorem Digest.Sha1.State.toNat_lt (s : Digest.Sha1.State) : s.toNat < Nat.pow 2 160 := by
  have ha := s.a.toNat_lt
  have hb := s.b.toNat_lt
  have hc := s.c.toNat_lt
  have hd := s.d.toNat_lt
  have he := s.e.toNat_lt
  simp only [toNat, List.foldl_cons, List.foldl_nil, Nat.pow_eq]
  omega

theorem Digest.Sha1.leading_lt {bits : Nat} (h : bits ≤ 160) (text : String) :
    Digest.Sha1.leading bits text < Nat.pow 2 bits := by
  simp only [Digest.Sha1.leading, Nat.pow_eq]
  rw [Nat.div_lt_iff_lt_mul (Nat.two_pow_pos _), ← Nat.pow_add, Nat.add_sub_cancel' h]
  exact State.toNat_lt _

/-! ## The bits of an entity -/

theorem bucketOfBits_zero : bucketOfBits 0 = Binary.ofNat 0 := by decide

namespace Entity

/-- The text by which an entity is put into a bucket. -/
def textFor? (e : Entity) (reference : Option Reference) (isExperiment : Bool) : Option String :=
  match isExperiment, reference with
  | true, _ => bucketText? (some (.string e.key)) none
  | false, none => bucketText? (some (.string e.key)) e.secondary
  | false, some r => bucketText? (e.value? r) e.secondary

/-- The bits that the bucket of an entity is made of: the first of the digest of its text, or none
are set if it has no text. -/
def bits (e : Entity) (reference : Option Reference) (salt : String) (isExperiment : Bool) : Nat :=
  (e.textFor? reference isExperiment).elim 0 fun text =>
    Digest.Sha1.leading bucketBits (salt ++ "." ++ text)

theorem bits_lt (e : Entity) (reference : Option Reference) (salt : String) (isExperiment : Bool) :
    e.bits reference salt isExperiment < Nat.pow 2 bucketBits := by
  rw [bits]
  cases e.textFor? reference isExperiment with
  | none =>
    rw [Option.elim_none]
    exact Nat.two_pow_pos _
  | some text =>
    rw [Option.elim_some]
    exact Digest.Sha1.leading_lt (by decide) _

/-- What has no text has the bucket without bits. -/
theorem bucketOfValue_eq (salt : String) (value : Option AttributeValue)
    (secondary : Option String) :
    bucketOfValue salt value secondary =
      bucketOfBits ((bucketText? value secondary).elim 0 fun text =>
        Digest.Sha1.leading bucketBits (salt ++ "." ++ text)) := by
  rw [bucketOfValue]
  cases bucketText? value secondary with
  | none => rw [Option.elim_none, Option.elim_none, bucketOfBits_zero]
  | some text => rw [Option.elim_some, Option.elim_some, bucketOfText]

/-- The bucket of an entity is that of its bits, and nothing but an invalid reference prevents
it. -/
theorem bucket_eq_ok_iff {e : Entity} {reference : Option Reference} {salt : String}
    {isExperiment : Bool} {b : Single} :
    e.bucket reference salt isExperiment = .ok b ↔
      (isExperiment = false → ∀ r, reference = some r → r.check = .ok ()) ∧
        b = bucketOfBits (e.bits reference salt isExperiment) := by
  rw [bucket.eq_def, bits, textFor?.eq_def]
  cases isExperiment with
  | true => simp [bucketOfValue_eq, eq_comm]
  | false =>
    cases reference with
    | none => simp [bucketOfValue_eq, eq_comm]
    | some r =>
      cases hr : r.check with
      | error e => simp [hr, bind, Except.bind]
      | ok u => simp [hr, bind, Except.bind, pure, Except.pure, bucketOfValue_eq, eq_comm]

end Entity

theorem Context.bucket_eq_ok_some_iff {c : Context} {kind : Kind} {reference : Option Reference}
    {salt : String} {isExperiment : Bool} {b : Single} :
    c.bucket kind reference salt isExperiment = .ok (some b) ↔
      ∃ e, c.entity? kind = some e ∧ e.bucket reference salt isExperiment = .ok b := by
  rw [bucket]
  cases c.entity? kind with
  | none => simp
  | some e => cases hbucket : e.bucket reference salt isExperiment <;>
      simp [hbucket, Functor.map, Except.map]

/-! ## The order of buckets -/

/-- The least bits that are rounded up to the whole. -/
def wholeBits : Nat := Nat.pow 2 bucketBits - Nat.pow 2 35

theorem isFinite_ofNat {bits : Nat} (h : bits ≤ Nat.pow 2 bucketBits) :
    (Binary.ofNat bits : Single).isFinite = true := by
  have hwhole : (Binary.ofNat (Nat.pow 2 bucketBits) : Single).isFinite = true := by decide
  have hle : (Binary.ofNat bits : Single).magnitude ≤
      (Binary.ofNat (Nat.pow 2 bucketBits) : Single).magnitude :=
    BinaryFormat.nearest_mono _ (Nat.mul_le_mul_right _ h) 1
  exact decide_eq_true (Nat.lt_of_le_of_lt hle (of_decide_eq_true hwhole))

/-- A bucket is the exact quotient of two rounded numbers, rounded. -/
theorem bucketOfBits_eq {bits : Nat} (h : bits ≤ Nat.pow 2 bucketBits) :
    bucketOfBits bits = Binary.round false
      ((Binary.ofNat bits : Single).units * BinaryFormat.single.one) bucketScale.units := by
  have hnan : (Binary.ofNat bits : Single).isNaN = false := Binary.isNaN_round _ _ _
  have hscale : bucketScale.isNaN = false ∧ bucketScale.isFinite = true ∧
      bucketScale.units ≠ 0 ∧ bucketScale.negative = false := by decide
  obtain ⟨hscalenan, hscalefinite, hscaleunits, hscalesign⟩ := hscale
  have hsign : (Binary.ofNat bits : Single).negative = false := rfl
  simp [bucketOfBits, Binary.div, hnan, isFinite_ofNat h, hscalenan, hscalefinite, hscaleunits,
    hscalesign, hsign]

/-- **Buckets are in the order of their bits.** -/
theorem bucketOfBits_magnitude_mono {m n : Nat} (h : m ≤ n) (hn : n ≤ Nat.pow 2 bucketBits) :
    (bucketOfBits m).magnitude ≤ (bucketOfBits n).magnitude := by
  rw [bucketOfBits_eq (Nat.le_trans h hn), bucketOfBits_eq hn]
  refine BinaryFormat.nearest_mono _ (Nat.mul_le_mul_right _ ?_) _
  exact BinaryFormat.units_mono _ (BinaryFormat.nearest_mono _ (Nat.mul_le_mul_right _ h) 1)

theorem negative_bucketOfBits {bits : Nat} (h : bits ≤ Nat.pow 2 bucketBits) :
    (bucketOfBits bits).negative = false := by
  rw [bucketOfBits_eq h]
  rfl

theorem isNaN_bucketOfBits {bits : Nat} (h : bits ≤ Nat.pow 2 bucketBits) :
    (bucketOfBits bits).isNaN = false := by
  rw [bucketOfBits_eq h]
  exact Binary.isNaN_round _ _ _

theorem bucketOfBits_whole : bucketOfBits wholeBits = Binary.ofNat 1 ∧
    bucketOfBits (Nat.pow 2 bucketBits) = Binary.ofNat 1 := by
  decide

theorem bucketOfBits_below_whole :
    (bucketOfBits (wholeBits - 1)).magnitude < (Binary.ofNat 1 : Single).magnitude := by
  decide

/-- Buckets lie between zero and one. -/
theorem bucketOfBits_mem_unit {bits : Nat} (h : bits ≤ Nat.pow 2 bucketBits) :
    (Binary.ofNat 0).atMost (bucketOfBits bits) = true ∧
      (bucketOfBits bits).atMost (Binary.ofNat 1) = true := by
  have hle := bucketOfBits_magnitude_mono h (Nat.le_refl _)
  rw [bucketOfBits_whole.2] at hle
  refine ⟨?_, (Binary.atMost_iff (negative_bucketOfBits h) rfl (isNaN_bucketOfBits h)
    (Binary.isNaN_ofNat 1)).2 hle⟩
  refine (Binary.atMost_iff rfl (negative_bucketOfBits h) (Binary.isNaN_ofNat 0)
    (isNaN_bucketOfBits h)).2 ?_
  rw [← bucketOfBits_zero]
  exact bucketOfBits_magnitude_mono (Nat.zero_le _) h

/-- **A bucket is less than one** just if its bits are not rounded up to the whole. -/
theorem bucketOfBits_less_one_iff {bits : Nat} (h : bits ≤ Nat.pow 2 bucketBits) :
    (bucketOfBits bits).less (Binary.ofNat 1) = true ↔ bits < wholeBits := by
  rw [Binary.less_iff (negative_bucketOfBits h) rfl (isNaN_bucketOfBits h)
    (Binary.isNaN_ofNat 1)]
  constructor
  · intro hless
    refine Nat.lt_of_not_le fun hwhole => ?_
    have hle := bucketOfBits_magnitude_mono hwhole h
    rw [bucketOfBits_whole.1] at hle
    exact absurd hless (Nat.not_lt.2 hle)
  · intro hlt
    have hbelow : wholeBits - 1 ≤ Nat.pow 2 bucketBits := by decide
    have hle := bucketOfBits_magnitude_mono (Nat.le_sub_one_of_lt hlt) hbelow
    exact Nat.lt_of_le_of_lt hle bucketOfBits_below_whole

/-! ## Rules that weigh the whole -/

/-- A rule that weighs the whole includes an entity just if its bits are not rounded up to the
whole. -/
theorem SegmentRule.includes_of_full {r : SegmentRule} {key salt : String} {c : Context}
    {e : Entity} (hweight : r.weight = some (Binary.ofNat 100000))
    (hkind : c.entity? r.rolloutContextKind = some e)
    (hreference : ∀ reference, r.bucketBy = some reference → reference.check = .ok ()) :
    r.includes key salt c =
      .ok (decide (e.bits r.bucketBy (key ++ "." ++ salt) false < wholeBits)) := by
  have hbucket : c.bucket r.rolloutContextKind r.bucketBy (key ++ "." ++ salt) false =
      .ok (some (bucketOfBits (e.bits r.bucketBy (key ++ "." ++ salt) false))) :=
    Context.bucket_eq_ok_some_iff.2
      ⟨e, hkind, Entity.bucket_eq_ok_iff.2 ⟨fun _ => hreference, rfl⟩⟩
  have hbits := Nat.le_of_lt (e.bits_lt r.bucketBy (key ++ "." ++ salt) false)
  generalize e.bits r.bucketBy (key ++ "." ++ salt) false = bits at hbucket hbits ⊢
  have hcounts : (Binary.ofNat 0 : Single).atMost (Binary.ofNat 100000) = true := by
    decide
  have hshare : weightShare (Binary.ofNat 100000) = Binary.ofNat 1 := by decide
  have hless : (bucketOfBits bits).less (Binary.ofNat 1) = decide (bits < wholeBits) := by
    rw [Bool.eq_iff_iff, bucketOfBits_less_one_iff hbits, decide_eq_true_iff]
  -- for any comparison, since the kernel would compute the two numbers otherwise
  have hany (p : Single → Bool) : (do
      let bucket ← c.bucket r.rolloutContextKind r.bucketBy (key ++ "." ++ salt) false
      return bucket.any p) = Except.ok (p (bucketOfBits bits)) := by
    rw [hbucket]
    rfl
  rw [includes, hweight]
  simp only [hcounts, if_true, hshare, hany, hless]

/-- **Buckets lie between zero and one, and some of them are one.**  A bucket is the quotient of the
rounded bits of the entity and the rounded scale, and is less than one just if its bits are not
rounded up to the whole.  A rule of a segment that weighs the whole, and whose clauses hold, includes
an entity just then. -/
theorem bucket_range (env : Environment) :
    (∀ (kind : Kind) (reference : Option Reference) (salt : String) (isExperiment : Bool)
      (b : Single), env.context.bucket kind reference salt isExperiment = .ok (some b) →
        ∃ e bits, env.context.entity? kind = some e ∧
          bits = e.bits reference salt isExperiment ∧ bits < Nat.pow 2 60 ∧
          b = (Binary.ofNat bits).div (Binary.ofNat (Nat.pow 2 60 - 1)) ∧
          (Binary.ofNat 0).atMost b = true ∧ b.atMost (Binary.ofNat 1) = true ∧
          (b.less (Binary.ofNat 1) = true ↔ bits < wholeBits)) ∧
    ∀ (inSegment : String → Eval Bool) (r : SegmentRule) (key salt : String) (e : Entity)
      (s t : Scope), r.weight = some (Binary.ofNat 100000) →
      env.context.entity? r.rolloutContextKind = some e →
      (∀ reference, r.bucketBy = some reference → reference.check = .ok ()) →
      allHold env inSegment r.clauses s = (.ok true, t) →
      r.evaluate env inSegment key salt s =
        (.ok (decide (e.bits r.bucketBy (key ++ "." ++ salt) false < wholeBits)), t) := by
  constructor
  · intro kind reference salt isExperiment b h
    obtain ⟨e, hkind, hbucket⟩ := Context.bucket_eq_ok_some_iff.1 h
    obtain ⟨-, rfl⟩ := Entity.bucket_eq_ok_iff.1 hbucket
    have hbits := e.bits_lt reference salt isExperiment
    obtain ⟨hzero, hone⟩ := bucketOfBits_mem_unit (Nat.le_of_lt hbits)
    exact ⟨e, _, hkind, rfl, hbits, rfl, hzero, hone,
      bucketOfBits_less_one_iff (Nat.le_of_lt hbits)⟩
  · intro inSegment r key salt e s t hweight hkind hreference hclauses
    rw [SegmentRule.evaluate, Eval.bind_of_ok hclauses, if_pos rfl,
      SegmentRule.includes_of_full hweight hkind hreference]
    rfl

/-- The rule of a segment for everyone. -/
def SegmentRule.forEveryone : SegmentRule := ⟨[], some (Binary.ofNat 100000), none, .user⟩

/-- A user about whom nothing but a key is known. -/
def Entity.ofUserKey (key : String) : Entity := ⟨.user, key, none, false, none, .empty⟩

theorem bits_of_unlucky :
    (Entity.ofUserKey "user-30799270").bits none ("everyone" ++ "." ++ "") false =
      0xffffffc83655334 := by
  decide +kernel

/-- An evaluation for such a user, with nothing in the store. -/
def Environment.forUser (key : String) : Environment :=
  ⟨.ofDataset (.ofItems [] []), none, .ofUserKey key⟩

/-- A user is included, and another one is not. -/
theorem bucket_range_everyone :
    let included user := (SegmentRule.forEveryone.evaluate (.forUser user)
      (fun _ => Eval.fail .tooDeep) "everyone" "" .empty).1
    included "u" = .ok true ∧ included "user-30799270" = .ok false ∧
      ∃ b, (Context.ofUserKey "u").bucket .user none "everyone." false = .ok (some b) ∧
        b.less (Binary.ofNat 1) = true := by
  intro included
  have hincluded (user : String) : included user = .ok (decide
      ((Entity.ofUserKey user).bits none ("everyone" ++ "." ++ "") false < wholeBits)) :=
    congrArg Prod.fst ((bucket_range (.forUser user)).2 _ .forEveryone "everyone" ""
      (.ofUserKey user) .empty .empty rfl rfl nofun rfl)
  have hbits : (Entity.ofUserKey "u").bits none "everyone." false < wholeBits := by
    decide +kernel
  have hbucket : (Context.ofUserKey "u").bucket .user none "everyone." false =
      .ok (some (bucketOfBits ((Entity.ofUserKey "u").bits none "everyone." false))) :=
    Context.bucket_eq_ok_some_iff.2 ⟨_, rfl, Entity.bucket_eq_ok_iff.2 ⟨nofun, rfl⟩⟩
  refine ⟨?_, ?_, _, hbucket, ?_⟩
  · rw [hincluded]
    exact congrArg Except.ok (decide_eq_true hbits)
  · rw [hincluded, bits_of_unlucky]
    rfl
  · obtain ⟨e, bits, hkind, rfl, -, -, -, -, hless⟩ :=
      (bucket_range (.forUser "u")).1 _ _ _ _ _ hbucket
    cases hkind
    exact hless.2 hbits

/-- **There is a user with a bucket of one**, whom a rule for everyone does not include. -/
theorem everyone_excludes :
    (Context.ofUserKey "user-30799270").bucket .user none ("everyone" ++ "." ++ "") false =
        .ok (some (Binary.ofNat 1)) ∧
      SegmentRule.forEveryone.weight = some (Binary.ofNat 100000) ∧
      SegmentRule.forEveryone.clauses = [] ∧ SegmentRule.forEveryone.bucketBy = none ∧
      ((Context.ofUserKey "user-30799270").entity?
        SegmentRule.forEveryone.rolloutContextKind).isSome = true ∧
      SegmentRule.forEveryone.includes "everyone" "" (.ofUserKey "user-30799270") = .ok false := by
  have hone : bucketOfBits 0xffffffc83655334 = Binary.ofNat 1 := by decide
  refine ⟨?_, rfl, rfl, rfl, rfl, ?_⟩
  · refine Context.bucket_eq_ok_some_iff.2 ⟨.ofUserKey "user-30799270", rfl, ?_⟩
    refine Entity.bucket_eq_ok_iff.2 ⟨nofun, ?_⟩
    rw [bits_of_unlucky, hone]
  · have hkind : (Context.ofUserKey "user-30799270").entity?
        SegmentRule.forEveryone.rolloutContextKind = some (.ofUserKey "user-30799270") := rfl
    rw [SegmentRule.includes_of_full rfl hkind nofun]
    change Except.ok (decide ((Entity.ofUserKey "user-30799270").bits none
      ("everyone" ++ "." ++ "") false < wholeBits)) = _
    rw [bits_of_unlucky]
    rfl

end FeatureFlags
