import LabelPress.Json.Reader
import LabelPress.Units
import Mathlib.Tactic.ByContra
import Mathlib.Tactic.SplitIfs

/-!
# Reading numbers and strings back

A number is only at its end where its digits end, so a text is read together with what follows it:
nothing, or the comma or bracket after a value (`Ends`).

* `Numeral.read_append`, `number_append`: a number that is read of a text is read of it in front of
  a comma or bracket too.
* `stringRest_quote`: **a text in quotes reads back**, whatever characters it has.
-/

namespace LabelPress.Json

open LabelPress.Number LabelPress.Text

/-! ## What follows a value -/

/-- The text is over, or goes on with a comma or a closing bracket. -/
def Ends (s : List Char) : Prop := ∀ c ∈ s.head?, c = ',' ∨ c = ']' ∨ c = '}'

theorem ends_cons {c : Char} {s : List Char} (h : c = ',' ∨ c = ']' ∨ c = '}') : Ends (c :: s) := by
  simpa [Ends] using h

/-- Characters that are none of these three do not begin what follows. -/
theorem Ends.ne {c d : Char} {s : List Char} (h : Ends (c :: s))
    (hd : d ≠ ',' ∧ d ≠ ']' ∧ d ≠ '}') : c ≠ d := by
  rintro rfl
  exact (h c rfl).elim hd.1 fun hc => hc.elim hd.2.1 hd.2.2

theorem Ends.takeWhile_isDigit {s : List Char} (h : Ends s) : s.takeWhile Char.isDigit = [] := by
  cases s with
  | nil => rfl
  | cons c s =>
    rcases h c rfl with rfl | rfl | rfl <;> rfl

theorem Ends.dropWhile_isDigit {s : List Char} (h : Ends s) : s.dropWhile Char.isDigit = s := by
  cases s with
  | nil => rfl
  | cons c s =>
    rcases h c rfl with rfl | rfl | rfl <;> rfl

theorem takeWhile_append_ends {s rest : List Char} (h : Ends rest) :
    (s ++ rest).takeWhile Char.isDigit = s.takeWhile Char.isDigit := by
  induction s with
  | nil => exact h.takeWhile_isDigit
  | cons c s ih => rw [List.cons_append, List.takeWhile_cons, List.takeWhile_cons, ih]

theorem dropWhile_append_ends {s rest : List Char} (h : Ends rest) :
    (s ++ rest).dropWhile Char.isDigit = s.dropWhile Char.isDigit ++ rest := by
  induction s with
  | nil => exact h.dropWhile_isDigit
  | cons c s ih =>
    rw [List.cons_append, List.dropWhile_cons, List.dropWhile_cons, ih]
    split <;> rfl

theorem bind_eq_ok_iff {ε α β : Type} {x : Except ε α} {f : α → Except ε β} {b : β} :
    (x >>= f) = .ok b ↔ ∃ a, x = .ok a ∧ f a = .ok b := by
  cases x with
  | error fault => exact ⟨nofun, fun ⟨_, h, _⟩ => nomatch h⟩
  | ok a => exact ⟨fun h => ⟨a, rfl, h⟩, fun ⟨_, h, hb⟩ => by cases h; exact hb⟩

/-! ## Numbers -/

namespace Numeral

variable {atEnd : Fault} {s ds t rest : List Char}

theorem digits_eq_ok_iff : digits atEnd s = .ok (ds, t) ↔
    ds ≠ [] ∧ s.takeWhile Char.isDigit = ds ∧ s.dropWhile Char.isDigit = t := by
  unfold digits
  split
  · simp only [reduceCtorEq, List.takeWhile_nil, false_iff, not_and]
    intro hne hds
    exact absurd hds.symm hne
  · rename_i hnil
    simp only [reduceCtorEq, hnil, false_iff, not_and]
    intro hne hds
    exact absurd hds.symm hne
  · rename_i hs hds
    simp only [Except.ok.injEq, Prod.mk.injEq, iff_and_self, and_imp]
    rintro rfl - hnil
    exact hds hnil

theorem digits_append (h : digits atEnd s = .ok (ds, t)) (hrest : Ends rest) :
    digits atEnd (s ++ rest) = .ok (ds, t ++ rest) := by
  obtain ⟨hne, rfl, rfl⟩ := digits_eq_ok_iff.1 h
  exact digits_eq_ok_iff.2 ⟨hne, takeWhile_append_ends hrest, dropWhile_append_ends hrest⟩

theorem wholePart_eq_ok_iff : wholePart atEnd s = .ok (ds, t) ↔
    digits atEnd s = .ok (ds, t) ∧ ∀ c cs, ds ≠ '0' :: c :: cs := by
  unfold wholePart
  split
  · rename_i c cs t' h
    rw [h]
    simp only [reduceCtorEq, Except.ok.injEq, Prod.mk.injEq, false_iff, not_and, and_imp]
    rintro rfl - hno
    exact hno c cs rfl
  · rename_i hzero
    constructor
    · intro h
      exact ⟨h, fun c cs hds => hzero c cs t (hds ▸ h)⟩
    · exact fun h => h.1

theorem wholePart_append (h : wholePart atEnd s = .ok (ds, t)) (hrest : Ends rest) :
    wholePart atEnd (s ++ rest) = .ok (ds, t ++ rest) := by
  obtain ⟨hdigits, hzero⟩ := wholePart_eq_ok_iff.1 h
  exact wholePart_eq_ok_iff.2 ⟨digits_append hdigits hrest, hzero⟩

theorem fractionPart_of_ends (hrest : Ends rest) : fractionPart atEnd rest = .ok ([], rest) := by
  unfold fractionPart
  split
  · rename_i t
    exact absurd rfl (hrest.ne (d := '.') (by decide))
  · rfl

theorem fractionPart_append (h : fractionPart atEnd s = .ok (ds, t)) (hrest : Ends rest) :
    fractionPart atEnd (s ++ rest) = .ok (ds, t ++ rest) := by
  cases s with
  | nil =>
    cases h
    exact fractionPart_of_ends hrest
  | cons c s =>
    by_cases hc : c = '.'
    · subst hc
      exact digits_append h hrest
    · unfold fractionPart at h ⊢
      split at h
      · rename_i hs
        exact absurd (List.cons.inj hs).1 hc
      · cases h
        split
        · rename_i hs
          exact absurd (List.cons.inj hs).1 hc
        · rfl

theorem exponentPart_of_ends (hrest : Ends rest) :
    exponentPart atEnd rest = .ok (none, rest) := by
  cases rest with
  | nil => rfl
  | cons c rest =>
    have he : ¬ (c = 'e' ∨ c = 'E') :=
      not_or.2 ⟨hrest.ne (by decide), hrest.ne (by decide)⟩
    exact if_neg he

theorem powerDigits_append {negative : Bool} {e : Option Int}
    (h : powerDigits atEnd negative s = .ok (e, t)) (hrest : Ends rest) :
    powerDigits atEnd negative (s ++ rest) = .ok (e, t ++ rest) := by
  unfold powerDigits at h ⊢
  cases hd : digits atEnd s with
  | error fault => rw [hd] at h; cases h
  | ok p =>
    obtain ⟨ds, u⟩ := p
    rw [hd] at h
    cases h
    rw [digits_append hd hrest]
    rfl

theorem exponentPart_append {e : Option Int} (h : exponentPart atEnd s = .ok (e, t))
    (hrest : Ends rest) : exponentPart atEnd (s ++ rest) = .ok (e, t ++ rest) := by
  cases s with
  | nil =>
    cases h
    exact exponentPart_of_ends hrest
  | cons c s =>
    unfold exponentPart at h ⊢
    dsimp only [List.cons_append] at h ⊢
    split_ifs at h ⊢ with he
    · cases s with
      | nil => cases h
      | cons d s =>
        by_cases hminus : d = '-'
        · subst hminus
          exact powerDigits_append h hrest
        by_cases hplus : d = '+'
        · subst hplus
          exact powerDigits_append h hrest
        · split at h
          · rename_i hs
            exact absurd (List.cons.inj hs).1 hminus
          · rename_i hs
            exact absurd (List.cons.inj hs).1 hplus
          · split
            · rename_i hs
              exact absurd (List.cons.inj hs).1 hminus
            · rename_i hs
              exact absurd (List.cons.inj hs).1 hplus
            · exact powerDigits_append h hrest
    · cases h
      rfl

/-- The parts of a number after its sign. -/
def parts (atEnd : Fault) (negative : Bool) (s : List Char) :
    Except Fault (Numeral × List Char) := do
  let (whole, s) ← wholePart atEnd s
  let (fraction, s) ← fractionPart atEnd s
  let (exponent, s) ← exponentPart atEnd s
  return ({ negative, whole, fraction, exponent }, s)

theorem read_of_ne_minus {c : Char} (hc : c ≠ '-') :
    read atEnd (c :: s) = parts atEnd false (c :: s) := by
  unfold read
  split
  rename_i hsign
  split at hsign
  · rename_i hs
    exact absurd (List.cons.inj hs).1 hc
  · cases hsign
    rfl

theorem parts_append {negative : Bool} {n : Numeral} (h : parts atEnd negative s = .ok (n, t))
    (hrest : Ends rest) : parts atEnd negative (s ++ rest) = .ok (n, t ++ rest) := by
  unfold parts at h ⊢
  obtain ⟨⟨whole, s₁⟩, hwhole, h⟩ := bind_eq_ok_iff.1 h
  obtain ⟨⟨fraction, s₂⟩, hfraction, h⟩ := bind_eq_ok_iff.1 h
  obtain ⟨⟨exponent, s₃⟩, hexponent, h⟩ := bind_eq_ok_iff.1 h
  cases h
  refine bind_eq_ok_iff.2 ⟨_, wholePart_append hwhole hrest, ?_⟩
  refine bind_eq_ok_iff.2 ⟨_, fractionPart_append hfraction hrest, ?_⟩
  exact bind_eq_ok_iff.2 ⟨_, exponentPart_append hexponent hrest, rfl⟩

/-- What is read of a text is read of it in front of a comma or bracket too. -/
theorem read_append {n : Numeral} (h : read atEnd s = .ok (n, t)) (hrest : Ends rest) :
    read atEnd (s ++ rest) = .ok (n, t ++ rest) := by
  cases s with
  | nil => cases h
  | cons c s =>
    by_cases hc : c = '-'
    · subst hc
      exact parts_append h hrest
    · rw [read_of_ne_minus hc] at h
      rw [List.cons_append, read_of_ne_minus hc]
      exact parts_append h hrest

theorem digits_head (h : digits atEnd s = .ok (ds, t)) : ∃ c cs, s = c :: cs ∧ c.isDigit := by
  obtain ⟨hne, hds, -⟩ := digits_eq_ok_iff.1 h
  cases s with
  | nil => exact absurd hds.symm hne
  | cons c s =>
    refine ⟨c, s, rfl, ?_⟩
    by_contra hc
    rw [List.takeWhile_cons_of_neg hc] at hds
    exact hne hds.symm

/-- A number begins with a sign or a digit. -/
theorem read_head {n : Numeral} (h : read atEnd s = .ok (n, t)) :
    ∃ c cs, s = c :: cs ∧ (c = '-' ∨ c.isDigit) := by
  cases s with
  | nil => cases h
  | cons c s =>
    by_cases hc : c = '-'
    · exact ⟨c, s, rfl, .inl hc⟩
    · rw [read_of_ne_minus hc] at h
      obtain ⟨⟨whole, s₁⟩, hwhole, -⟩ := bind_eq_ok_iff.1 h
      obtain ⟨_, _, hcs, hdigit⟩ := digits_head (wholePart_eq_ok_iff.1 hwhole).1
      cases hcs
      exact ⟨c, s, rfl, .inr hdigit⟩

end Numeral

namespace Reader

variable {s t rest : List Char}

theorem number_eq_ok_iff {j : Json} : number s = .ok (j, t) ↔
    ∃ n, Numeral.read .endInValue s = .ok (n, t) ∧ n.value = .ok j := by
  unfold number
  constructor
  · intro h
    obtain ⟨⟨n, s₁⟩, hread, h⟩ := bind_eq_ok_iff.1 h
    obtain ⟨i, hvalue, h⟩ := bind_eq_ok_iff.1 h
    cases h
    exact ⟨n, hread, hvalue⟩
  · rintro ⟨n, hread, hvalue⟩
    exact bind_eq_ok_iff.2 ⟨_, hread, bind_eq_ok_iff.2 ⟨_, hvalue, rfl⟩⟩

theorem number_append {j : Json} (h : number s = .ok (j, t)) (hrest : Ends rest) :
    number (s ++ rest) = .ok (j, t ++ rest) := by
  obtain ⟨n, hread, hvalue⟩ := number_eq_ok_iff.1 h
  exact number_eq_ok_iff.2 ⟨n, Numeral.read_append hread hrest, hvalue⟩

theorem number_head {j : Json} (h : number s = .ok (j, t)) :
    ∃ c cs, s = c :: cs ∧ (c = '-' ∨ c.isDigit) := by
  obtain ⟨n, hread, -⟩ := number_eq_ok_iff.1 h
  exact Numeral.read_head hread

/-! ## Strings -/

theorem ofNat_hexByte {c : Char} (hc : c.toNat < 32) :
    natOfHex? ('0' :: '0' :: hexByte c.toNat.toUInt8) = some c.toNat := by
  have hbyte := natOfHex?_hexByte c.toNat.toUInt8
  have hnat : c.toNat.toUInt8.toNat = c.toNat := by
    rw [Nat.toUInt8, UInt8.toNat_ofNat']
    omega
  rw [hnat] at hbyte
  exact hbyte

theorem unicodeEscape_hexByte {c : Char} (hc : c.toNat < 32) (t : List Char) :
    unicodeEscape ('0' :: '0' :: (hexByte c.toNat.toUInt8 ++ t)) = .ok (c, t) := by
  have hhex : hexEscape ('0' :: '0' :: (hexByte c.toNat.toUInt8 ++ t)) = .ok (c.toNat, t) := by
    have hnat := ofNat_hexByte hc
    unfold hexByte at hnat ⊢
    unfold hexEscape
    dsimp only [List.cons_append, List.nil_append]
    rw [hnat]
  unfold unicodeEscape
  rw [hhex]
  have hlow : ¬ (0xDC00 ≤ c.toNat ∧ c.toNat ≤ 0xDFFF) := by omega
  have hhigh : ¬ (0xD800 ≤ c.toNat ∧ c.toNat < 0xDC00) := by omega
  simp [bind, Except.bind, hlow, hhigh, Except.pure, pure]

theorem stringChar_cons {c : Char} (hquote : c ≠ '"') (hslash : c ≠ '\\') (s : List Char) :
    stringChar (c :: s) = if c.toNat < 32 then .error .controlCharacter else .ok (some c, s) := by
  unfold stringChar
  split <;> simp_all

/-- A character inside quotes reads back. -/
theorem stringChar_escapeChar (c : Char) (t : List Char) :
    stringChar (escapeChar c ++ t) = .ok (some c, t) := by
  unfold escapeChar
  split_ifs with hquote hslash hback htab hline hfeed hreturn hcontrol
  · subst hquote
    rfl
  · subst hslash
    rfl
  · subst hback
    rfl
  · subst htab
    rfl
  · subst hline
    rfl
  · subst hfeed
    rfl
  · subst hreturn
    rfl
  · have hescape : escape ('u' :: '0' :: '0' :: (hexByte c.toNat.toUInt8 ++ t)) = .ok (c, t) :=
      unicodeEscape_hexByte hcontrol t
    change (escape ('u' :: '0' :: '0' :: (hexByte c.toNat.toUInt8 ++ t))).map _ = _
    rw [hescape]
    rfl
  · exact (stringChar_cons hquote hslash t).trans (if_neg hcontrol)

theorem stringChars_escape (cs done rest : List Char) {fuel : Nat} (hfuel : cs.length < fuel) :
    stringChars fuel done (cs.flatMap escapeChar ++ '"' :: rest)
      = .ok (done.reverse ++ cs, rest) := by
  induction cs generalizing done fuel with
  | nil =>
    obtain ⟨fuel, rfl⟩ : ∃ n, fuel = n + 1 := Nat.exists_eq_add_one.2 hfuel
    simp [stringChars, stringChar]
  | cons c cs ih =>
    obtain ⟨fuel, rfl⟩ : ∃ n, fuel = n + 1 :=
      Nat.exists_eq_add_one.2 (Nat.zero_lt_of_lt hfuel)
    have hchar := stringChar_escapeChar c (cs.flatMap escapeChar ++ '"' :: rest)
    have hcs := ih (c :: done) (Nat.lt_of_succ_lt_succ hfuel)
    rw [List.flatMap_cons, List.append_assoc, stringChars, hchar]
    simpa using hcs

theorem length_le_flatMap_escapeChar (cs : List Char) :
    cs.length ≤ (cs.flatMap escapeChar).length := by
  induction cs with
  | nil => exact Nat.zero_le _
  | cons c cs ih =>
    have hc : 0 < (escapeChar c).length := by
      unfold escapeChar
      split_ifs <;> simp
    rw [List.flatMap_cons, List.length_append, List.length_cons]
    omega

/-- A text in quotes reads back. -/
theorem stringRest_quote (s : String) (rest : List Char) :
    stringRest (s.toList.flatMap escapeChar ++ '"' :: rest) = .ok (s, rest) := by
  have hfuel : s.toList.length < (s.toList.flatMap escapeChar ++ '"' :: rest).length + 1 := by
    have := length_le_flatMap_escapeChar s.toList
    rw [List.length_append]
    omega
  unfold stringRest
  rw [stringChars_escape s.toList [] rest hfuel]
  simp [Except.map]

theorem toList_quote (s : String) :
    (quote s).toList = '"' :: (s.toList.flatMap escapeChar ++ ['"']) := by
  simp [quote]

end Reader

end LabelPress.Json
