import FeatureFlags.Text.Digits
import Mathlib.Data.List.Basic
import Mathlib.Data.List.Induction
import Mathlib.Data.List.TakeDrop
import Mathlib.Data.List.TakeWhile

/-!
# Texts in pieces

A text falls into a run of characters that pass a test and a rest that does not continue the run,
and there is only one way to cut it so.  This is what makes texts readable from the left: if two
texts that are put together from a run and a rest are the same, so are their runs and rests.  In the
same way a text falls into parts at the places of a separator.

A run of digits without superfluous leading zeros is the decimal form of the number that it stands
for.

## What is here

* `Text.Ends`, `Text.span_eq_iff`, `Text.run_inj`: runs and rests.
* `Text.splitOn_eq_iff`: parts between separators.
* `Text.number_inj`: as many digits for the same number.
* `Text.number_toDigits`, `Text.toDigits_number`: numbers and their decimal forms.
-/

set_option autoImplicit false

namespace FeatureFlags.Text

/-! ## Runs -/

variable {p : Char → Bool} {s run run' rest rest' : List Char}

/-- A text does not begin with a character that passes a test. -/
def Ends (p : Char → Bool) (rest : List Char) : Prop := ∀ c, rest.head? = some c → p c = false

theorem ends_nil : Ends p [] := nofun

theorem ends_cons_iff {c : Char} : Ends p (c :: rest) ↔ p c = false := by simp [Ends]

theorem span_append (hrun : ∀ c ∈ run, p c = true) (hrest : Ends p rest) :
    (run ++ rest).span p = (run, rest) := by
  have htake : rest.takeWhile p = [] ∧ rest.dropWhile p = rest := by
    cases rest with
    | nil => exact ⟨rfl, rfl⟩
    | cons c rest => simp [ends_cons_iff.1 hrest]
  rw [List.span_eq_takeWhile_dropWhile, List.takeWhile_append_of_pos hrun,
    List.dropWhile_append_of_pos hrun, htake.1, htake.2, List.append_nil]

theorem span_eq_iff :
    s.span p = (run, rest) ↔ s = run ++ rest ∧ (∀ c ∈ run, p c = true) ∧ Ends p rest := by
  constructor
  · intro h
    obtain ⟨rfl, rfl⟩ := Prod.mk.inj ((List.span_eq_takeWhile_dropWhile p s).symm.trans h)
    refine ⟨List.takeWhile_append_dropWhile.symm, fun c hc => List.mem_takeWhile_imp hc, ?_⟩
    intro c hc
    have hhead := List.head?_dropWhile_not p s
    rw [hc] at hhead
    simpa using hhead
  · rintro ⟨rfl, hrun, hrest⟩
    exact span_append hrun hrest

/-- **A text is cut into a run and a rest in one way only.** -/
theorem run_inj (hrun : ∀ c ∈ run, p c = true) (hrest : Ends p rest)
    (hrun' : ∀ c ∈ run', p c = true) (hrest' : Ends p rest') (h : run ++ rest = run' ++ rest') :
    run = run' ∧ rest = rest' := by
  have hspan := span_append hrun hrest
  rw [h, span_append hrun' hrest'] at hspan
  exact ⟨(congrArg Prod.fst hspan).symm, (congrArg Prod.snd hspan).symm⟩

/-! ## Parts -/

variable {sep : Char} {text part : List Char} {parts : List (List Char)}

theorem not_mem_of_mem_splitOn (h : part ∈ text.splitOn sep) : sep ∉ part := by
  induction text generalizing part with
  | nil => simp_all
  | cons c rest ih =>
    rw [List.splitOn_cons_eq_if_modifyHead] at h
    obtain ⟨first, others, hsplit⟩ := List.exists_cons_of_ne_nil (List.splitOn_ne_nil sep rest)
    rw [hsplit] at h ih
    split at h
    · rcases List.mem_cons.1 h with rfl | hrest
      · exact List.not_mem_nil
      · exact ih hrest
    · next hsep =>
      rw [List.modifyHead_cons] at h
      rcases List.mem_cons.1 h with rfl | hrest
      · refine List.not_mem_cons_of_ne_of_not_mem (fun heq => hsep ?_) (ih List.mem_cons_self)
        exact beq_iff_eq.2 heq.symm
      · exact ih (List.mem_cons_of_mem first hrest)

/-- **A text is cut at its separators in one way only.** -/
theorem splitOn_eq_iff :
    text.splitOn sep = parts ↔
      parts ≠ [] ∧ (∀ part ∈ parts, sep ∉ part) ∧ text = [sep].intercalate parts := by
  constructor
  · rintro rfl
    exact ⟨List.splitOn_ne_nil sep text, fun _ hpart => not_mem_of_mem_splitOn hpart,
      (List.intercalate_splitOn sep).symm⟩
  · rintro ⟨hne, hsep, rfl⟩
    exact List.splitOn_intercalate sep hsep hne

/-- Every part but the first has a separator before it. -/
theorem intercalate_cons :
    [sep].intercalate (part :: parts) = part ++ parts.flatMap (sep :: ·) := by
  induction parts generalizing part with
  | nil => simp
  | cons next rest ih => simp [ih]

/-! ## Numbers -/

/-- The digit that a character is. -/
def digitValue (c : Char) : Nat := c.toNat - '0'.toNat

theorem isDigit_iff_toNat {c : Char} : c.isDigit = true ↔ 48 ≤ c.toNat ∧ c.toNat ≤ 57 := by
  simp [Char.isDigit, UInt32.le_iff_toNat_le]

theorem digitValue_eq (c : Char) : digitValue c = c.toNat - 48 := rfl

theorem digitValue_lt {c : Char} (h : c.isDigit = true) : digitValue c < 10 := by
  have hc := isDigit_iff_toNat.1 h
  rw [digitValue_eq]
  omega

theorem digitChar_digitValue {c : Char} (h : c.isDigit = true) :
    Nat.digitChar (digitValue c) = c := by
  have hc := isDigit_iff_toNat.1 h
  refine Char.toNat_inj.1 ?_
  rw [Nat.toNat_digitChar_of_lt_ten (digitValue_lt h), digitValue_eq]
  omega

theorem digitValue_digitChar {d : Nat} (h : d < 10) : digitValue (Nat.digitChar d) = d := by
  rw [digitValue_eq, Nat.toNat_digitChar_of_lt_ten h]
  omega

theorem number_append_singleton (digits : List Char) (c : Char) :
    number (digits ++ [c]) = 10 * number digits + digitValue c := by
  rw [number, List.foldl_append, List.foldl_cons, List.foldl_nil, Nat.mul_comm]
  rfl

/-- As many digits for the same number are the same digits. -/
theorem number_inj {digits digits' : List Char} (hdigits : ∀ c ∈ digits, c.isDigit = true)
    (hdigits' : ∀ c ∈ digits', c.isDigit = true) (hlength : digits.length = digits'.length)
    (h : number digits = number digits') : digits = digits' := by
  induction digits using List.reverseRecOn generalizing digits' with
  | nil => exact (List.eq_nil_of_length_eq_zero hlength.symm).symm
  | append_singleton ds c ih =>
    rcases List.eq_nil_or_concat digits' with rfl | ⟨ds', c', rfl⟩
    · simp at hlength
    · rw [List.concat_eq_append] at hdigits' hlength h ⊢
      rw [List.forall_mem_append, List.forall_mem_singleton] at hdigits hdigits'
      have hc := digitValue_lt hdigits.2
      have hc' := digitValue_lt hdigits'.2
      rw [number_append_singleton, number_append_singleton] at h
      have hfront : ds = ds' := ih hdigits.1 hdigits'.1 (by simpa using hlength) (by omega)
      have hlast : digitValue c = digitValue c' := by omega
      rw [hfront, ← digitChar_digitValue hdigits.2, hlast, digitChar_digitValue hdigits'.2]

theorem number_toDigits (n : Nat) : number (Nat.toDigits 10 n) = n := by
  induction n using Nat.strongRecOn with
  | ind n ih =>
    rw [Nat.toDigits_eq_if (by decide)]
    split
    · next hlt =>
      rw [← List.nil_append [n.digitChar], number_append_singleton, digitValue_digitChar hlt]
      exact Nat.zero_add n
    · next hge =>
      rw [number_append_singleton, ih (n / 10) (by omega),
        digitValue_digitChar (Nat.mod_lt _ (by decide))]
      omega

theorem toDigits_inj {m n : Nat} (h : Nat.toDigits 10 m = Nat.toDigits 10 n) : m = n := by
  rw [← number_toDigits m, h, number_toDigits]

theorem isDigit_of_mem_toDigits {n : Nat} : ∀ c ∈ Nat.toDigits 10 n, c.isDigit = true := fun _ hc =>
  Nat.isDigit_of_mem_toDigits (by decide) (by decide) hc

theorem toDigits_ne_nil (n : Nat) : Nat.toDigits 10 n ≠ [] := by
  rw [Nat.toDigits_eq_if (by decide)]
  split <;> simp

/-- Only zero is written with a leading zero. -/
theorem head?_toDigits {n : Nat} (h : 0 < n) : (Nat.toDigits 10 n).head? ≠ some '0' := by
  induction n using Nat.strongRecOn with
  | ind n ih =>
    rw [Nat.toDigits_eq_if (by decide)]
    split
    · next hlt =>
      intro hzero
      have hvalue := digitValue_digitChar hlt
      rw [List.head?_cons, Option.some.injEq] at hzero
      rw [hzero] at hvalue
      exact absurd hvalue (Nat.ne_of_lt h)
    · next hge =>
      rw [List.head?_append_of_ne_nil _ (toDigits_ne_nil _)]
      exact ih (n / 10) (by omega) (by omega)

/-- **Digits without a superfluous leading zero are those of their number.** -/
theorem toDigits_number {digits : List Char} (hne : digits ≠ [])
    (hdigits : ∀ c ∈ digits, c.isDigit = true)
    (hzero : digits.length ≤ 1 ∨ digits.head? ≠ some '0') :
    Nat.toDigits 10 (number digits) = digits := by
  induction digits using List.reverseRecOn with
  | nil => exact absurd rfl hne
  | append_singleton ds c ih =>
    have hc : c.isDigit = true := hdigits c (by simp)
    have hds : ∀ d ∈ ds, d.isDigit = true := fun d hd => hdigits d (by simp [hd])
    have hlast : Nat.toDigits 10 (digitValue c) = [c] := by
      rw [Nat.toDigits_of_lt_base (digitValue_lt hc), digitChar_digitValue hc]
    rw [number_append_singleton]
    cases ds with
    | nil =>
      rw [show number [] = 0 from rfl, Nat.mul_zero, Nat.zero_add]
      exact hlast
    | cons d ds =>
      -- the first digit is not zero, so neither is the number without the last one
      have hhead : d ≠ '0' := by simpa using hzero
      have hfront : Nat.toDigits 10 (number (d :: ds)) = d :: ds :=
        ih (List.cons_ne_nil d ds) hds (Or.inr (by simpa using hhead))
      have hpos : 0 < number (d :: ds) := by
        refine Nat.pos_of_ne_zero fun hnumber => hhead ?_
        rw [hnumber] at hfront
        exact (List.cons.inj hfront).1.symm
      rw [← Nat.toDigits_append_toDigits (by decide) hpos (digitValue_lt hc), hfront, hlast]

end FeatureFlags.Text
