import LabelPress.Proofs.Base64Text
import LabelPress.Proofs.JsonTokens

/-!
# Reading base 64

Four digits are read at once, and what is left at the end is read together with its padding. Each
part is read exactly if it was written, so the whole text is.

* `groupBytes_eq_iff`, `threeDigits_iff`, `twoDigits_iff`: values and the bytes they are made of.
* `splitPadding_eq_ok_iff`: where the padding may begin.
* `lastGroup_eq_ok_iff`, `group_eq_ok_iff`: what is read of a group.
* `decode_eq_ok_iff`: **the reader takes the text that is written and no other**.
-/

namespace LabelPress.Base64

open LabelPress.Json (bind_eq_ok_iff)

/-! ## Groups -/

section Groups

variable {a b c d x y z : UInt8} (ha : a.toNat < 64) (hb : b.toNat < 64)
include ha hb

/-- The bytes of four values are those that the values are made from. -/
theorem groupBytes_eq_iff (hc : c.toNat < 64) (hd : d.toNat < 64) :
    groupBytes a b c d = [x, y, z] ↔
      a = first x ∧ b = second x y ∧ c = third y z ∧ d = fourth z := by
  have hx := x.toNat_lt
  have hy := y.toNat_lt
  have hz := z.toNat_lt
  simp only [groupBytes, List.cons.injEq, and_true, ← UInt8.toNat_inj, toNat_first, toNat_second,
    toNat_third, toNat_fourth, UInt8.toNat_add, UInt8.toNat_mul, UInt8.toNat_div, UInt8.toNat_mod,
    UInt8.reduceToNat]
  omega

theorem threeDigits_iff (hc : c.toNat < 64) :
    [a * 4 + b / 16, b % 16 * 16 + c / 4] = [x, y] ∧ c % 4 = 0 ↔
      a = first x ∧ b = second x y ∧ c = third y 0 := by
  have hx := x.toNat_lt
  have hy := y.toNat_lt
  simp only [List.cons.injEq, and_true, ← UInt8.toNat_inj, toNat_first, toNat_second,
    toNat_third, UInt8.toNat_add, UInt8.toNat_mul, UInt8.toNat_div, UInt8.toNat_mod,
    UInt8.reduceToNat]
  omega

theorem twoDigits_iff :
    [a * 4 + b / 16] = [x] ∧ b % 16 = 0 ↔ a = first x ∧ b = second x 0 := by
  have hx := x.toNat_lt
  simp only [List.cons.injEq, and_true, ← UInt8.toNat_inj, toNat_first, toNat_second,
    UInt8.toNat_add, UInt8.toNat_mul, UInt8.toNat_div, UInt8.toNat_mod, UInt8.reduceToNat]
  omega

end Groups

variable {offset pads : Nat} {c n : UInt8} {text bytes numbers : Bytes}

theorem value_eq_ok_iff : value offset c = .ok n ↔ n.toNat < 64 ∧ c = digit n := by
  rw [← value?_eq_some_iff]
  unfold value
  cases value? c <;> simp

theorem values_eq_ok_iff : values offset text = .ok numbers ↔
    (∀ n ∈ numbers, n.toNat < 64) ∧ text = numbers.map digit := by
  induction text generalizing offset numbers with
  | nil => cases numbers <;> simp [values]
  | cons c text ih =>
    rw [values, bind_eq_ok_iff]
    simp only [bind_eq_ok_iff, value_eq_ok_iff, ih]
    constructor
    · rintro ⟨n, ⟨hn, rfl⟩, rest, ⟨hrest, rfl⟩, h⟩
      cases h
      exact ⟨List.forall_mem_cons.2 ⟨hn, hrest⟩, rfl⟩
    · rintro ⟨hnumbers, h⟩
      cases numbers with
      | nil => cases h
      | cons n rest =>
        obtain ⟨rfl, rfl⟩ := List.cons_eq_cons.1 h
        obtain ⟨hn, hrest⟩ := List.forall_mem_cons.1 hnumbers
        exact ⟨n, ⟨hn, rfl⟩, rest, ⟨hrest, rfl⟩, rfl⟩

/-- Digits are no padding, so they end where it begins. -/
theorem span_digits (hnumbers : ∀ n ∈ numbers, n.toNat < 64) (pads : Nat) :
    (numbers.map digit ++ List.replicate pads padding).takeWhile (· != padding) =
        numbers.map digit ∧
      (numbers.map digit ++ List.replicate pads padding).dropWhile (· != padding) =
        List.replicate pads padding := by
  have hdigit : ∀ c ∈ numbers.map digit, (c != padding) = true :=
    List.forall_mem_map.2 fun n hn => bne_iff_ne.2 (digit_ne_padding (hnumbers n hn))
  rw [List.takeWhile_append_of_pos hdigit, List.dropWhile_append_of_pos hdigit]
  cases pads with
  | zero => exact ⟨List.append_nil _, rfl⟩
  | succ pads => exact ⟨List.append_nil _, rfl⟩

theorem splitPadding_eq_ok_iff : splitPadding offset text = .ok (numbers, pads) ↔
    (∀ n ∈ numbers, n.toNat < 64) ∧
      text = numbers.map digit ++ List.replicate pads padding ∧
      (pads ≠ 0 → 2 ≤ numbers.length) := by
  unfold splitPadding
  extract_lets digits rest
  rw [bind_eq_ok_iff]
  simp only [values_eq_ok_iff]
  constructor
  · rintro ⟨values, ⟨hvalues, hdigits⟩, h⟩
    split at h
    · cases h
    · rename_i hpads
      cases h
      have hlength := congrArg List.length hdigits
      rw [List.length_map] at hlength
      rw [not_and_or, not_or, Decidable.not_not, Nat.not_lt] at hpads
      refine ⟨hvalues, ?_, ?_⟩
      · have hrest : rest = List.replicate rest.length padding := by
          rcases hpads with hnil | ⟨-, hall⟩
          · rw [hnil]
            rfl
          · refine List.eq_replicate_of_mem fun c hc => ?_
            by_contra hne
            exact hall (List.any_eq_true.2 ⟨c, hc, bne_iff_ne.2 hne⟩)
        rw [← hdigits, ← hrest]
        exact List.takeWhile_append_dropWhile.symm
      · intro hne
        rcases hpads with hnil | ⟨hlong, -⟩
        · exact absurd (by rw [hnil]; rfl) hne
        · omega
  · rintro ⟨hnumbers, rfl, hpads⟩
    obtain ⟨htake, hdrop⟩ := span_digits hnumbers pads
    refine ⟨numbers, ⟨hnumbers, htake⟩, ?_⟩
    have hrest : rest = List.replicate pads padding := hdrop
    have hdigits : digits.length = numbers.length := by
      rw [show digits = _ from htake, List.length_map]
    have hnot : ¬ (rest ≠ [] ∧ (digits.length < 2 ∨ rest.any (· != padding) = true)) := by
      rintro ⟨hne, hshort | hother⟩
      · have hpos : pads ≠ 0 := fun hzero => hne (by rw [hrest, hzero]; rfl)
        have := hpads hpos
        omega
      · rw [hrest, List.any_eq_true] at hother
        obtain ⟨c, hc, hne⟩ := hother
        exact bne_iff_ne.1 hne (List.eq_of_mem_replicate hc)
    rw [if_neg hnot, hrest, List.length_replicate]
    rfl

/-- The padding of a written text is split off. -/
theorem splitPadding_encode (offset : Nat) (bytes : Bytes) :
    splitPadding offset (encode bytes) = .ok (sextets bytes, padCount bytes) := by
  refine splitPadding_eq_ok_iff.2 ⟨lt_of_mem_sextets bytes, encode_eq bytes, fun hpads => ?_⟩
  have hlength := length_sextets bytes
  unfold padCount at *
  omega

theorem eq_encode_of_lastGroup (hlength : text.length ≤ 4)
    (h : lastGroup offset text = .ok bytes) : text = encode bytes := by
  unfold lastGroup at h
  obtain ⟨⟨numbers, pads⟩, hsplit, h⟩ := bind_eq_ok_iff.1 h
  obtain ⟨hnumbers, rfl, hpads⟩ := splitPadding_eq_ok_iff.1 hsplit
  rw [List.length_append, List.length_map, List.length_replicate] at hlength
  rcases numbers with _ | ⟨a, _ | ⟨b, _ | ⟨c, _ | ⟨d, more⟩⟩⟩⟩
  · dsimp only at h
    split at h
    · rename_i hnil
      cases h
      exact hnil
    · cases h
  · cases h
  · simp only [List.forall_mem_cons] at hnumbers
    dsimp only at h
    split at h
    · cases h
    · split at h
      · cases h
      · rename_i htwo hzero
        cases h
        obtain ⟨ha, hb⟩ := (twoDigits_iff hnumbers.1 hnumbers.2.1).1
          ⟨rfl, Decidable.not_not.1 hzero⟩
        rw [Decidable.not_not.1 htwo, encode_eq, sextets, ← ha, ← hb]
        rfl
  · simp only [List.forall_mem_cons] at hnumbers
    dsimp only at h
    split at h
    · cases h
    · split at h
      · cases h
      · rename_i hone hzero
        cases h
        obtain ⟨ha, hb, hc⟩ := (threeDigits_iff hnumbers.1 hnumbers.2.1 hnumbers.2.2.1).1
          ⟨rfl, Decidable.not_not.1 hzero⟩
        rw [Decidable.not_not.1 hone, encode_eq, sextets, ← ha, ← hb, ← hc]
        rfl
  · simp only [List.forall_mem_cons] at hnumbers
    simp only [List.length_cons] at hlength
    obtain rfl : more = [] := List.length_eq_zero_iff.1 (by omega)
    obtain rfl : pads = 0 := by omega
    cases h
    obtain ⟨ha, hb, hc, hd⟩ := (groupBytes_eq_iff hnumbers.1 hnumbers.2.1 hnumbers.2.2.1
      hnumbers.2.2.2.1).1 rfl
    rw [groupBytes, encode_eq, sextets, sextets, padCount_group, ← ha, ← hb, ← hc, ← hd]
    rfl

theorem lastGroup_encode (offset : Nat) (hlength : (encode bytes).length ≤ 4) :
    lastGroup offset (encode bytes) = .ok bytes := by
  unfold lastGroup
  refine bind_eq_ok_iff.2 ⟨_, splitPadding_encode offset bytes, ?_⟩
  rcases bytes with _ | ⟨x, _ | ⟨y, _ | ⟨z, _ | ⟨w, bytes⟩⟩⟩⟩
  · rfl
  · obtain ⟨hvalue, hzero⟩ := (twoDigits_iff (first_lt x) (second_lt x 0)).2 ⟨rfl, rfl⟩
    have hpads : padCount [x] = 2 := rfl
    simp only [sextets, hpads, hvalue, hzero, ne_eq, not_true_eq_false, if_false]
    rfl
  · obtain ⟨hvalue, hzero⟩ := (threeDigits_iff (first_lt x) (second_lt x y) (third_lt y 0)).2
      ⟨rfl, rfl, rfl⟩
    have hpads : padCount [x, y] = 1 := rfl
    simp only [sextets, hpads, hvalue, hzero, ne_eq, not_true_eq_false, if_false]
    rfl
  · exact congrArg Except.ok ((groupBytes_eq_iff (first_lt x) (second_lt x y) (third_lt y z)
      (fourth_lt z)).2 ⟨rfl, rfl, rfl, rfl⟩)
  · -- four bytes take more than one group
    have htext := length_sextets (x :: y :: z :: w :: bytes)
    rw [encode_eq, List.length_append, List.length_map, List.length_replicate] at hlength
    simp only [List.length_cons] at htext
    omega

/-- The last group is read if it was written. -/
theorem lastGroup_eq_ok_iff (hlength : text.length ≤ 4) :
    lastGroup offset text = .ok bytes ↔ text = encode bytes :=
  ⟨eq_encode_of_lastGroup hlength, by rintro rfl; exact lastGroup_encode offset hlength⟩

theorem group_eq_ok_iff {a b c d : UInt8} : group offset a b c d = .ok bytes ↔
    ∃ x y z, bytes = [x, y, z] ∧ a = digit (first x) ∧ b = digit (second x y) ∧
      c = digit (third y z) ∧ d = digit (fourth z) := by
  unfold group
  simp only [bind_eq_ok_iff, value_eq_ok_iff]
  constructor
  · rintro ⟨a, ⟨ha, rfl⟩, b, ⟨hb, rfl⟩, c, ⟨hc, rfl⟩, d, ⟨hd, rfl⟩, h⟩
    cases h
    obtain ⟨ha, hb, hc, hd⟩ := (groupBytes_eq_iff ha hb hc hd).1 rfl
    exact ⟨_, _, _, rfl, congrArg digit ha, congrArg digit hb, congrArg digit hc,
      congrArg digit hd⟩
  · rintro ⟨x, y, z, rfl, rfl, rfl, rfl, rfl⟩
    exact ⟨_, ⟨first_lt x, rfl⟩, _, ⟨second_lt x y, rfl⟩, _, ⟨third_lt y z, rfl⟩, _,
      ⟨fourth_lt z, rfl⟩, congrArg Except.ok ((groupBytes_eq_iff (first_lt x) (second_lt x y)
        (third_lt y z) (fourth_lt z)).2 ⟨rfl, rfl, rfl, rfl⟩)⟩

/-! ## Texts -/

/-- What is read from a place on is what was written there. -/
theorem decodeFrom_eq_ok_iff {done : Bytes} : decodeFrom offset done text = .ok bytes ↔
    ∃ tail, bytes = done.reverse ++ tail ∧ text = encode tail := by
  induction offset, done, text using decodeFrom.induct generalizing bytes with
  | case1 offset done a b c d e rest ih =>
    rw [decodeFrom, bind_eq_ok_iff]
    simp only [group_eq_ok_iff, ih]
    constructor
    · rintro ⟨_, ⟨x, y, z, rfl, rfl, rfl, rfl, rfl⟩, tail, rfl, hrest⟩
      refine ⟨x :: y :: z :: tail, by simp, ?_⟩
      rw [encode, ← hrest]
      rfl
    · rintro ⟨tail, rfl, htext⟩
      rcases tail with _ | ⟨x, _ | ⟨y, _ | ⟨z, tail⟩⟩⟩
      · cases htext
      · cases htext
      · cases htext
      · rw [encode] at htext
        simp only [List.cons.injEq] at htext
        obtain ⟨rfl, rfl, rfl, rfl, hrest⟩ := htext
        exact ⟨_, ⟨x, y, z, rfl, rfl, rfl, rfl, rfl⟩, tail, by simp, hrest⟩
  | case2 offset done text hshort =>
    have hlength : text.length ≤ 4 := by
      rcases text with _ | ⟨a, _ | ⟨b, _ | ⟨c, _ | ⟨d, _ | ⟨e, rest⟩⟩⟩⟩⟩
      case cons.cons.cons.cons.cons => exact (hshort a b c d e rest rfl).elim
      all_goals simp
    rw [decodeFrom]
    · have hlast : ∀ tail, lastGroup offset text = .ok tail ↔ text = encode tail :=
        fun _ => lastGroup_eq_ok_iff hlength
      simp only [← hlast]
      cases lastGroup offset text with
      | error fault =>
        constructor
        · intro h
          cases h
        · rintro ⟨tail, -, h⟩
          cases h
      | ok last =>
        constructor
        · intro h
          cases h
          exact ⟨last, rfl, rfl⟩
        · rintro ⟨tail, rfl, h⟩
          cases h
          rfl
    · exact hshort

/-- **The reader takes the text that is written and no other.** -/
theorem decode_eq_ok_iff : decode text = .ok bytes ↔ text = encode bytes := by
  have hread : decodeFrom 0 [] text = .ok bytes ↔ text = encode bytes := by
    simp [decodeFrom_eq_ok_iff]
  unfold decode
  split
  · rename_i c hlast
    split
    · rename_i hodd
      have hne : text ≠ encode bytes := by
        rintro rfl
        have hlength := length_sextets bytes
        have hdigits := congrArg List.length (encode_eq bytes)
        rw [List.length_append, List.length_map, List.length_replicate] at hdigits
        omega
      refine iff_of_false (fun h => ?_) hne
      cases h
    · exact hread
  · rename_i hnil
    rw [List.getLast?_eq_none_iff] at hnil
    subst hnil
    exact hread

end LabelPress.Base64
