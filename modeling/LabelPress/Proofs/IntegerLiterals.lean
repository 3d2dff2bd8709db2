import LabelPress.Proofs.JsonTokens
import Mathlib.Data.List.Induction
import Mathlib.Data.List.TakeWhile
import Mathlib.Tactic.IntervalCases

/-!
# Numbers that are integers

A number is an integer of 64 bits only if it is written with the digits of that integer, and no
fraction, power of ten or further digit follows them (`NumberEnds`).

* `IsWhole.toDigits_natOfDigits`: digits without zeros in front are those of the number that they
  stand for.
* `number_eq_integer_iff`: **an integer is read of its own text and of no other.**
-/

namespace LabelPress.Json

open LabelPress.Number

/-- No character follows with which a number could go on. -/
def NumberEnds (t : List Char) : Prop :=
  ∀ c ∈ t.head?, c.isDigit = false ∧ c ≠ '.' ∧ c ≠ 'e' ∧ c ≠ 'E'

namespace Numeral

variable {atEnd : Fault} {s ds t : List Char} {n : Int}

/-! ## Digits -/

theorem isDigit_iff {c : Char} : c.isDigit = true ↔ 48 ≤ c.toNat ∧ c.toNat ≤ 57 := by
  simp [Char.isDigit, UInt32.le_iff_toNat_le]

theorem digitValue_lt {c : Char} (hc : c.isDigit = true) : digitValue c < 10 := by
  have hrange := isDigit_iff.1 hc
  have hzero : '0'.toNat = 48 := rfl
  rw [digitValue]
  omega

theorem toDigits_digitValue {c : Char} (hc : c.isDigit = true) :
    Nat.toDigits 10 (digitValue c) = [c] := by
  obtain ⟨hlow, hhigh⟩ := isDigit_iff.1 hc
  have hzero : '0'.toNat = 48 := rfl
  rw [Nat.toDigits_of_lt_base (digitValue_lt hc), digitValue, hzero, List.cons.injEq,
    ← Char.toNat_inj]
  generalize c.toNat = k at hlow hhigh
  interval_cases k <;> exact ⟨rfl, rfl⟩

theorem natOfDigits_append_singleton (ds : List Char) (c : Char) :
    natOfDigits (ds ++ [c]) = 10 * natOfDigits ds + digitValue c := by
  rw [natOfDigits, List.foldl_append]
  rfl

/-- The digits of a number, without zeros in front. -/
structure IsWhole (ds : List Char) : Prop where
  ne_nil : ds ≠ []
  isDigit : ∀ c ∈ ds, c.isDigit = true
  no_zero : ∀ c cs, ds ≠ '0' :: c :: cs

theorem toDigits_ne_zero_cons (m : Nat) (c : Char) (cs : List Char) :
    Nat.toDigits 10 m ≠ '0' :: c :: cs := by
  induction m using Nat.strongRecOn generalizing c cs with
  | ind m ih =>
    by_cases hm : m < 10
    · rw [Nat.toDigits_of_lt_base hm]
      simp
    · rw [Nat.toDigits_of_base_le (by decide) (by omega)]
      intro h
      have hvalue := Nat.ofDigitChars_ten_toDigits (n := m / 10)
      cases hds : Nat.toDigits 10 (m / 10) with
      | nil => exact Nat.toDigits_ne_nil hds
      | cons d ds =>
        rw [hds] at h hvalue
        obtain ⟨rfl, -⟩ := List.cons.inj h
        cases ds with
        | nil =>
          have hzero : Nat.ofDigitChars 10 ['0'] 0 = 0 := rfl
          omega
        | cons e es => exact ih (m / 10) (by omega) e es hds

theorem isWhole_toDigits (m : Nat) : IsWhole (Nat.toDigits 10 m) where
  ne_nil := Nat.toDigits_ne_nil
  isDigit _ hc := Nat.isDigit_of_mem_toDigits (by decide) (by decide) hc
  no_zero := toDigits_ne_zero_cons m

theorem natOfDigits_toDigits (m : Nat) : natOfDigits (Nat.toDigits 10 m) = m :=
  Nat.ofDigitChars_toDigits (by decide) (by decide)

/-- Digits without zeros in front of them are those of the number that they stand for. -/
theorem IsWhole.toDigits_natOfDigits (h : IsWhole ds) : Nat.toDigits 10 (natOfDigits ds) = ds := by
  induction ds using List.reverseRecOn with
  | nil => exact absurd rfl h.ne_nil
  | append_singleton ds c ih =>
    have hc : c.isDigit = true := h.isDigit c (by simp)
    cases ds with
    | nil =>
      have hvalue : natOfDigits [c] = digitValue c := by
        simp [natOfDigits]
      rw [List.nil_append, hvalue, toDigits_digitValue hc]
    | cons d ds =>
      have hfront := ih
        { ne_nil := List.cons_ne_nil d ds
          isDigit := fun e he => h.isDigit e (List.mem_append_left [c] he)
          no_zero := fun e es heq => h.no_zero e (es ++ [c]) (by rw [heq]; rfl) }
      have hpos : 0 < natOfDigits (d :: ds) := by
        by_contra hnot
        rw [Nat.eq_zero_of_not_pos hnot] at hfront
        obtain ⟨rfl, rfl⟩ := List.cons.inj hfront
        exact h.no_zero c [] rfl
      rw [natOfDigits_append_singleton,
        ← Nat.toDigits_append_toDigits (by decide) hpos (digitValue_lt hc), hfront,
        toDigits_digitValue hc]

/-! ## The parts of an integer -/

theorem digits_eq_ok_iff_append : digits atEnd s = .ok (ds, t) ↔
    s = ds ++ t ∧ ds ≠ [] ∧ (∀ c ∈ ds, c.isDigit = true) ∧ ∀ c ∈ t.head?, c.isDigit = false := by
  rw [digits_eq_ok_iff]
  constructor
  · rintro ⟨hne, rfl, rfl⟩
    refine ⟨List.takeWhile_append_dropWhile.symm, hne, fun c => List.mem_takeWhile_imp, ?_⟩
    intro c hc
    have hnot := List.head?_dropWhile_not Char.isDigit s
    rw [Option.mem_def.1 hc] at hnot
    exact hnot
  · rintro ⟨rfl, hne, hdigit, hend⟩
    have htail : t.takeWhile Char.isDigit = [] ∧ t.dropWhile Char.isDigit = t := by
      cases t with
      | nil => exact ⟨rfl, rfl⟩
      | cons c t => simp [hend c rfl]
    rw [List.takeWhile_append_of_pos hdigit, List.dropWhile_append_of_pos hdigit, htail.1, htail.2]
    exact ⟨hne, List.append_nil ds, rfl⟩

theorem fractionPart_eq_nil_iff :
    fractionPart atEnd s = .ok ([], t) ↔ s = t ∧ ∀ c ∈ t.head?, c ≠ '.' := by
  unfold fractionPart
  split
  · rename_i s
    rw [digits_eq_ok_iff]
    constructor
    · exact fun h => absurd rfl h.1
    · rintro ⟨rfl, hnot⟩
      exact absurd rfl (hnot '.' rfl)
  · rename_i hpoint
    constructor
    · rintro ⟨⟩
      refine ⟨rfl, ?_⟩
      rintro c hc rfl
      obtain ⟨rest, rfl⟩ := List.head?_eq_some_iff.1 hc
      exact hpoint rest rfl
    · rintro ⟨rfl, -⟩
      rfl

theorem powerDigits_ne_none {negative : Bool} :
    powerDigits atEnd negative s ≠ .ok (none, t) := by
  unfold powerDigits
  cases digits atEnd s <;> exact nofun

theorem exponentPart_eq_none_iff :
    exponentPart atEnd s = .ok (none, t) ↔ s = t ∧ ∀ c ∈ t.head?, c ≠ 'e' ∧ c ≠ 'E' := by
  cases s with
  | nil =>
    constructor
    · rintro ⟨⟩
      exact ⟨rfl, nofun⟩
    · rintro ⟨rfl, -⟩
      rfl
  | cons c s =>
    unfold exponentPart
    dsimp only
    split_ifs with he
    · constructor
      · intro h
        split at h <;> exact absurd h powerDigits_ne_none
      · rintro ⟨rfl, hnot⟩
        obtain ⟨hlower, hupper⟩ := hnot c rfl
        exact absurd he (not_or.2 ⟨hlower, hupper⟩)
    · constructor
      · rintro ⟨⟩
        refine ⟨rfl, ?_⟩
        rintro _ ⟨⟩
        exact not_or.1 he
      · rintro ⟨rfl, -⟩
        rfl

/-- Behind its sign, a number is only digits if no fraction and no power of ten follow. -/
theorem parts_eq_ok_iff {negative negative' : Bool} : parts atEnd negative s
      = .ok ({ negative := negative', whole := ds, fraction := [], exponent := none }, t) ↔
    negative' = negative ∧ s = ds ++ t ∧ NumberEnds t ∧ IsWhole ds := by
  unfold parts
  constructor
  · intro h
    obtain ⟨⟨whole, s₁⟩, hwhole, h⟩ := bind_eq_ok_iff.1 h
    obtain ⟨⟨fraction, s₂⟩, hfraction, h⟩ := bind_eq_ok_iff.1 h
    obtain ⟨⟨exponent, s₃⟩, hexponent, h⟩ := bind_eq_ok_iff.1 h
    cases h
    obtain ⟨hdigits, hzero⟩ := wholePart_eq_ok_iff.1 hwhole
    obtain ⟨rfl, hne, hdigit, hend⟩ := digits_eq_ok_iff_append.1 hdigits
    obtain ⟨rfl, hpoint⟩ := fractionPart_eq_nil_iff.1 hfraction
    obtain ⟨rfl, hpower⟩ := exponentPart_eq_none_iff.1 hexponent
    exact ⟨rfl, rfl, fun c hc => ⟨hend c hc, hpoint c hc, hpower c hc⟩, ⟨hne, hdigit, hzero⟩⟩
  · rintro ⟨rfl, rfl, hend, hne, hdigit, hzero⟩
    have hdigits : digits atEnd (ds ++ t) = .ok (ds, t) :=
      digits_eq_ok_iff_append.2 ⟨rfl, hne, hdigit, fun c hc => (hend c hc).1⟩
    refine bind_eq_ok_iff.2 ⟨_, wholePart_eq_ok_iff.2 ⟨hdigits, hzero⟩, ?_⟩
    refine bind_eq_ok_iff.2 ⟨_, fractionPart_eq_nil_iff.2 ⟨rfl, fun c hc => (hend c hc).2.1⟩, ?_⟩
    exact bind_eq_ok_iff.2
      ⟨_, exponentPart_eq_none_iff.2 ⟨rfl, fun c hc => (hend c hc).2.2⟩, rfl⟩

/-- Which numbers are integers. -/
theorem integer?_eq_some_iff {num : Numeral} : num.integer? = some n ↔
    num.fraction = [] ∧ num.exponent = none ∧ natOfDigits num.whole = n.natAbs ∧
      (num.negative = true ↔ n < 0) ∧ minInteger ≤ n ∧ n ≤ maxInteger := by
  obtain ⟨negative, whole, fraction, exponent⟩ := num
  have hmin : minInteger < 0 := by decide
  have hmax : 0 ≤ maxInteger := by decide
  unfold integer?
  dsimp only
  generalize natOfDigits whole = m
  by_cases hplain : fraction = [] ∧ exponent = none
  · obtain ⟨rfl, rfl⟩ := hplain
    rw [if_pos ⟨rfl, rfl⟩]
    cases negative
    · rw [if_neg Bool.false_ne_true, Option.ite_none_right_eq_some, Option.some.injEq]
      simp only [Bool.false_eq_true, false_iff, true_and]
      omega
    · rw [if_pos rfl, Option.ite_none_right_eq_some, Option.some.injEq]
      simp only [true_iff, true_and]
      omega
  · rw [if_neg hplain]
    simp only [reduceCtorEq, false_iff]
    exact fun h => hplain ⟨h.1, h.2.1⟩

theorem value_eq_integer_iff {num : Numeral} :
    num.value = .ok (.integer n) ↔ num.integer? = some n := by
  unfold value
  cases num.integer? with
  | some i => simp
  | none => cases num.float <;> simp [Except.map]

/-! ## The text of an integer -/

theorem toList_toString_int (n : Int) :
    (toString n).toList = (if n < 0 then ['-'] else []) ++ Nat.toDigits 10 n.natAbs := by
  cases n with
  | ofNat m => exact Nat.toList_repr
  | negSucc m =>
    rw [if_pos (Int.negSucc_lt_zero m), Int.natAbs_negSucc, ← Nat.toList_repr]
    exact String.toList_append

theorem read_toString (atEnd : Fault) (n : Int) (hend : NumberEnds t) :
    read atEnd ((toString n).toList ++ t)
      = .ok (⟨decide (n < 0), Nat.toDigits 10 n.natAbs, [], none⟩, t) := by
  have hwhole := isWhole_toDigits n.natAbs
  have hparts : ∀ sign, parts atEnd sign (Nat.toDigits 10 n.natAbs ++ t)
      = .ok (⟨sign, Nat.toDigits 10 n.natAbs, [], none⟩, t) :=
    fun sign => parts_eq_ok_iff.2 ⟨rfl, rfl, hend, hwhole⟩
  rw [toList_toString_int]
  by_cases hneg : n < 0
  · rw [if_pos hneg, decide_eq_true hneg]
    exact hparts true
  · rw [if_neg hneg, decide_eq_false hneg, List.nil_append]
    obtain ⟨c, cs, hcs⟩ := List.exists_cons_of_ne_nil hwhole.ne_nil
    have hminus : c ≠ '-' := by
      rintro rfl
      exact absurd (hwhole.isDigit '-' (by simp [hcs])) (by decide)
    have hread := hparts false
    rw [hcs, List.cons_append] at hread ⊢
    rw [read_of_ne_minus hminus, hread]

theorem eq_toString_of_read {num : Numeral} (h : read atEnd s = .ok (num, t))
    (hinteger : num.integer? = some n) : s = (toString n).toList ++ t ∧ NumberEnds t := by
  obtain ⟨negative, whole, fraction, exponent⟩ := num
  obtain ⟨rfl, rfl, hwhole, hsign, -⟩ := integer?_eq_some_iff.1 hinteger
  dsimp only at hwhole hsign
  have hdigits : ∀ {s sign}, parts atEnd sign s = .ok (⟨negative, whole, [], none⟩, t) →
      negative = sign ∧ s = Nat.toDigits 10 n.natAbs ++ t ∧ NumberEnds t := by
    intro s sign h
    obtain ⟨rfl, rfl, hend, hds⟩ := parts_eq_ok_iff.1 h
    rw [← hwhole, hds.toDigits_natOfDigits]
    exact ⟨rfl, rfl, hend⟩
  rw [toList_toString_int]
  cases s with
  | nil => cases h
  | cons c s =>
    by_cases hc : c = '-'
    · subst hc
      obtain ⟨rfl, rfl, hend⟩ := hdigits h
      rw [if_pos (hsign.1 rfl)]
      exact ⟨rfl, hend⟩
    · rw [read_of_ne_minus hc] at h
      obtain ⟨rfl, hs, hend⟩ := hdigits h
      rw [if_neg (fun hneg => Bool.false_ne_true (hsign.2 hneg))]
      exact ⟨hs, hend⟩

end Numeral

namespace Reader

variable {s t : List Char} {n : Int}

/-- **An integer is read of its own text and of no other**: of the digits of a number that fits 64
bits, behind a sign if it is less than zero. -/
theorem number_eq_integer_iff : number s = .ok (.integer n, t) ↔
    s = (toString n).toList ++ t ∧ NumberEnds t ∧ minInteger ≤ n ∧ n ≤ maxInteger := by
  rw [number_eq_ok_iff]
  constructor
  · rintro ⟨num, hread, hvalue⟩
    have hinteger := Numeral.value_eq_integer_iff.1 hvalue
    obtain ⟨hs, hend⟩ := Numeral.eq_toString_of_read hread hinteger
    exact ⟨hs, hend, (Numeral.integer?_eq_some_iff.1 hinteger).2.2.2.2⟩
  · rintro ⟨rfl, hend, hrange⟩
    refine ⟨_, Numeral.read_toString .endInValue n hend, Numeral.value_eq_integer_iff.2 ?_⟩
    exact Numeral.integer?_eq_some_iff.2
      ⟨rfl, rfl, Numeral.natOfDigits_toDigits _, by simp, hrange⟩

/-- An integer of 64 bits reads back. -/
theorem number_integer (hmin : minInteger ≤ n) (hmax : n ≤ maxInteger) :
    number (toString n).toList = .ok (.integer n, []) :=
  number_eq_integer_iff.2 ⟨(List.append_nil _).symm, nofun, hmin, hmax⟩

end Reader

end LabelPress.Json
