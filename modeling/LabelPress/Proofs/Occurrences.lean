import LabelPress.Proofs.Scanning
import Mathlib.Data.List.Basic

/-!
# Filling replaces every placeholder once

`substitute` reads a document from the left. This file says what comes out by places of the
document alone (`OccursAt`, `Becomes`), with no scanner in the statements.

* `occursAt_iff`: **the scanner cuts out exactly the placeholders** that occur in the text.
* `OccursAt.disjoint`: no two of them overlap.
* `becomes_parts`: **each place becomes its part**: the value where a placeholder begins, nothing in
  the rest of it, the character everywhere else.
* `substitute_append_placeholder`: a value is put in as it is, and neither it nor the text around it
  is read again.
* `fillsPlaceholders`: **filling replaces all placeholders and nothing else.**
-/

namespace LabelPress

open LabelPress.Text LabelPress.Piece

/-! ## Widths -/

namespace Piece

/-- The number of characters that pieces were read from. -/
def width (ps : List Piece) : Nat := (ps.flatMap source).length

@[simp] theorem width_nil : width [] = 0 := rfl

@[simp] theorem width_append (ps qs : List Piece) : width (ps ++ qs) = width ps + width qs := by
  simp [width]

@[simp] theorem width_cons (p : Piece) (ps : List Piece) :
    width (p :: ps) = p.source.length + width ps := by
  simp [width]

theorem width_pieces (s : List Char) : width (pieces s) = s.length := by
  rw [width, flatMap_source_pieces]

@[simp] theorem length_source_hole (name : List Char) :
    (hole name).source.length = name.length + 4 := by
  simp [source]

theorem front_cases {M R R' : List Piece} {p q : Piece} (h : p :: R = M ++ q :: R') :
    (M = [] ∧ p = q) ∨ p.source.length ≤ width M := by
  cases M with
  | nil => exact .inl ⟨rfl, (List.cons.inj h).1⟩
  | cons r M =>
    obtain ⟨rfl, -⟩ := List.cons.inj h
    rw [width_cons]
    exact .inr (Nat.le_add_right _ _)

/-- Two pieces of a list are the same one, or one ends before the other begins. -/
theorem cut_cases {L R L' R' : List Piece} {p q : Piece} (h : L ++ p :: R = L' ++ q :: R') :
    (L = L' ∧ p = q) ∨ width L + p.source.length ≤ width L' ∨
      width L' + q.source.length ≤ width L := by
  rcases List.append_eq_append_iff.1 h with ⟨M, rfl, hM⟩ | ⟨M, rfl, hM⟩
  · rw [width_append]
    rcases front_cases hM with ⟨rfl, hpq⟩ | hle
    · exact .inl ⟨(List.append_nil L).symm, hpq⟩
    · exact .inr (.inl (by omega))
  · rw [width_append]
    rcases front_cases hM with ⟨rfl, hqp⟩ | hle
    · exact .inl ⟨List.append_nil L', hqp.symm⟩
    · exact .inr (.inr (by omega))

theorem exists_cut {ps : List Piece} {i : Nat} (h : i < width ps) :
    ∃ L p R, ps = L ++ p :: R ∧ width L ≤ i ∧ i < width L + p.source.length := by
  induction ps generalizing i with
  | nil => exact absurd h (Nat.not_lt_zero i)
  | cons p ps ih =>
    by_cases hi : i < p.source.length
    · exact ⟨[], p, ps, rfl, Nat.zero_le i, by simpa using hi⟩
    · rw [width_cons] at h
      obtain ⟨L, q, R, rfl, hle, hlt⟩ := ih (i := i - p.source.length) (by omega)
      refine ⟨p :: L, q, R, rfl, ?_, ?_⟩
      · rw [width_cons]
        omega
      · rw [width_cons]
        omega

end Piece

/-! ## Occurrences -/

/-- A placeholder with this name begins at place `i` of the text. -/
def OccursAt (s : List Char) (i : Nat) (name : List Char) : Prop :=
  IsName name ∧ (hole name).source <+: s.drop i

/-- **The scanner cuts out exactly the placeholders that occur** in the text. -/
theorem occursAt_iff {s : List Char} {i : Nat} {name : List Char} :
    OccursAt s i name ↔ ∃ L R, pieces s = L ++ hole name :: R ∧ width L = i := by
  constructor
  · rintro ⟨hname, t, ht⟩
    have hi : i ≤ s.length := by
      have hlength := congrArg List.length ht
      rw [List.length_append, length_source_hole, List.length_drop] at hlength
      omega
    refine ⟨pieces (s.take i), pieces t, ?_, ?_⟩
    · rw [← pieces_append_source hname, ht, List.take_append_drop]
    · rw [width_pieces, List.length_take, Nat.min_eq_left hi]
  · rintro ⟨L, R, hcut, rfl⟩
    have hs := flatMap_source_pieces s
    rw [hcut, List.flatMap_append, List.flatMap_cons] at hs
    refine ⟨isName_of_mem_pieces (s := s) (by simp [hcut]), R.flatMap source, ?_⟩
    rw [← hs, width, List.drop_left]

theorem OccursAt.disjoint {s : List Char} {i j : Nat} {name name' : List Char}
    (h : OccursAt s i name) (h' : OccursAt s j name') :
    (i = j ∧ name = name') ∨ i + (name.length + 4) ≤ j ∨ j + (name'.length + 4) ≤ i := by
  obtain ⟨L, R, hcut, rfl⟩ := occursAt_iff.1 h
  obtain ⟨L', R', hcut', rfl⟩ := occursAt_iff.1 h'
  rw [hcut] at hcut'
  rcases cut_cases hcut' with ⟨rfl, hname⟩ | hbefore | hafter
  · exact .inl ⟨rfl, Piece.hole.inj hname⟩
  · exact .inr (.inl (by simpa using hbefore))
  · exact .inr (.inr (by simpa using hafter))

/-! ## What becomes of a place -/

/-- What stands for a name: its value, escaped. A name is looked up without the blanks around it; a
name without a value leaves nothing. -/
def valueOf (values : Variables) (name : List Char) : List Char :=
  match values[trim (String.ofList name)]? with
  | some value => (Zpl.escape value).toList
  | none => []

theorem fill_hole (values : Variables) (name : List Char) :
    (hole name).fill values = valueOf values name := by
  have htrim : trim (String.ofList name) = String.ofList (trimChars name) := by
    rw [trim, onChars, String.toList_ofList]
  rw [valueOf, htrim, Piece.fill]
  cases values[String.ofList (trimChars name)]? with
  | none => rfl
  | some value => exact (toList_onChars Zpl.escapeChars value).symm

/-- What place `i` of a text becomes. -/
inductive Becomes (s : List Char) (values : Variables) (i : Nat) : List Char → Prop where
  /-- Where a placeholder begins, the value of its name. -/
  | value {name : List Char} (h : OccursAt s i name) : Becomes s values i (valueOf values name)
  /-- In the rest of a placeholder, nothing. -/
  | gone {j : Nat} {name : List Char} (h : OccursAt s j name) (hj : j < i)
      (hi : i < j + (name.length + 4)) : Becomes s values i []
  /-- Outside the placeholders, the character itself. -/
  | kept {c : Char} (hc : s[i]? = some c)
      (h : ∀ j name, OccursAt s j name → i < j ∨ j + (name.length + 4) ≤ i) :
      Becomes s values i [c]

theorem Becomes.unique {s : List Char} {values : Variables} {i : Nat} {a b : List Char}
    (ha : Becomes s values i a) (hb : Becomes s values i b) : a = b := by
  -- the place lies in one placeholder at most, since no two overlap
  cases ha with
  | value h =>
    cases hb with
    | value h' =>
      rcases h.disjoint h' with ⟨-, rfl⟩ | h | h
      · rfl
      all_goals omega
    | gone h' hj hi => rcases h.disjoint h' with h | h | h <;> omega
    | kept hc hout => rcases hout _ _ h with h | h <;> omega
  | gone h hj hi =>
    cases hb with
    | value h' => rcases h.disjoint h' with h | h | h <;> omega
    | gone => rfl
    | kept hc hout => rcases hout _ _ h with h | h <;> omega
  | kept hc hout =>
    cases hb with
    | value h => rcases hout _ _ h with h | h <;> omega
    | gone h hj hi => rcases hout _ _ h with h | h <;> omega
    | kept hc' => rw [Option.some.inj (hc.symm.trans hc')]

namespace Piece

/-- The parts that the characters of a piece become: the first one becomes all of it. -/
def parts (values : Variables) (p : Piece) : List (List Char) :=
  p.fill values :: List.replicate (p.source.length - 1) []

theorem length_parts (values : Variables) (p : Piece) :
    (p.parts values).length = p.source.length := by
  have hpos : 0 < p.source.length := by cases p <;> simp [source]
  rw [parts, List.length_cons, List.length_replicate]
  omega

theorem length_flatMap_parts (values : Variables) (ps : List Piece) :
    (ps.flatMap (parts values)).length = width ps := by
  rw [width, List.length_flatMap, List.length_flatMap]
  exact congrArg List.sum (List.map_congr_left fun p _ => p.length_parts values)

theorem flatten_flatMap_parts (values : Variables) (ps : List Piece) :
    (ps.flatMap (parts values)).flatten = ps.flatMap (fill values) := by
  induction ps with
  | nil => rfl
  | cons p ps ih => simp [parts, ih]

end Piece

/-- **Each place becomes its part.** -/
theorem becomes_parts {s : List Char} {values : Variables} {i : Nat} {part : List Char}
    (h : ((pieces s).flatMap (parts values))[i]? = some part) : Becomes s values i part := by
  have hi : i < width (pieces s) := by
    rw [← length_flatMap_parts values]
    exact (List.getElem?_eq_some_iff.1 h).1
  obtain ⟨L, p, R, hcut, hle, hlt⟩ := exists_cut hi
  have hpart : (p.parts values)[i - width L]? = some part := by
    rw [hcut, List.flatMap_append, List.flatMap_cons,
      List.getElem?_append_right (by rwa [length_flatMap_parts]), length_flatMap_parts,
      List.getElem?_append_left (by rw [length_parts]; omega)] at h
    exact h
  cases p with
  | char c =>
    obtain rfl : i = width L := by
      simp only [source, List.length_singleton] at hlt
      omega
    obtain rfl : [c] = part := by simpa [parts, Piece.fill] using hpart
    refine .kept ?_ fun j name hj => ?_
    · have hs := flatMap_source_pieces s
      rw [hcut, List.flatMap_append] at hs
      rw [← hs, width, List.getElem?_append_right (Nat.le_refl _), Nat.sub_self]
      rfl
    · -- a placeholder is another piece, so it ends before this one or begins behind it
      obtain ⟨L', R', hcut', rfl⟩ := occursAt_iff.1 hj
      rw [hcut] at hcut'
      rcases cut_cases hcut' with ⟨-, hname⟩ | hbefore | hafter
      · cases hname
      · simp only [source, List.length_singleton] at hbefore
        omega
      · rw [length_source_hole] at hafter
        omega
  | hole name =>
    have hoccurs : OccursAt s (width L) name := occursAt_iff.2 ⟨L, R, hcut, rfl⟩
    rw [length_source_hole] at hlt
    by_cases hfirst : i = width L
    · subst hfirst
      obtain rfl : (hole name).fill values = part := by simpa [parts] using hpart
      rw [fill_hole]
      exact .value hoccurs
    · obtain rfl : part = [] := by
        obtain ⟨k, hk⟩ : ∃ k, i - width L = k + 1 := ⟨i - width L - 1, by omega⟩
        rw [hk, parts, List.getElem?_cons_succ, List.getElem?_replicate] at hpart
        split at hpart
        · exact (Option.some.inj hpart).symm
        · cases hpart
      exact .gone hoccurs (by omega) hlt

/-! ## Filling -/

theorem toList_substitute (document : String) (values : Variables) :
    (substitute document values).toList = (pieces document.toList).flatMap (Piece.fill values) := by
  rw [substitute, toList_onChars]

/-- **A value is put in as it is**: neither it nor the text around it is read again. -/
theorem substitute_append_placeholder {name : List Char} (hname : IsName name)
    (before after : String) (values : Variables) :
    substitute (before ++ Zpl.braced (String.ofList name) ++ after) values =
      substitute before values ++ String.ofList (valueOf values name) ++ substitute after values := by
  have hsource : (before ++ Zpl.braced (String.ofList name) ++ after).toList =
      before.toList ++ ((hole name).source ++ after.toList) := by
    simp [Zpl.braced, source]
  rw [← String.toList_inj, toList_substitute, hsource, pieces_append_source hname,
    List.flatMap_append, List.flatMap_cons, fill_hole]
  simp [toList_substitute]

theorem substitute_congr {document : String} {values values' : Variables}
    (h : ∀ i name, OccursAt document.toList i name →
      values[trim (String.ofList name)]? = values'[trim (String.ofList name)]?) :
    substitute document values = substitute document values' := by
  rw [← String.toList_inj, toList_substitute, toList_substitute]
  refine List.flatMap_congr fun p hp => ?_
  cases p with
  | char c => rfl
  | hole name =>
    obtain ⟨L, R, hcut⟩ := List.append_of_mem hp
    rw [fill_hole, fill_hole, valueOf, valueOf, h _ name (occursAt_iff.2 ⟨L, R, hcut, rfl⟩)]

/-- Filling a document replaces its placeholders and nothing else. -/
structure FillsPlaceholders (document : String) : Prop where
  /-- No two placeholders overlap. -/
  disjoint : ∀ i j name name', OccursAt document.toList i name →
    OccursAt document.toList j name' →
    (i = j ∧ name = name') ∨ i + (name.length + 4) ≤ j ∨ j + (name'.length + 4) ≤ i
  /-- A place becomes one thing only. -/
  unique : ∀ values i a b, Becomes document.toList values i a →
    Becomes document.toList values i b → a = b
  /-- The result is what the places become, in order. -/
  replaced : ∀ values, ∃ parts : List (List Char),
    parts.length = document.toList.length ∧
    (∀ i part, parts[i]? = some part → Becomes document.toList values i part) ∧
    (substitute document values).toList = parts.flatten
  /-- A value is put in as it is, whatever it holds, and is not read together with what is around
  it. -/
  once : ∀ values name before after, IsName name →
    document = before ++ Zpl.braced (String.ofList name) ++ after →
    substitute document values =
      substitute before values ++ String.ofList (valueOf values name) ++ substitute after values
  /-- Only the names that occur are looked up. -/
  needed : ∀ values values',
    (∀ i name, OccursAt document.toList i name →
      values[trim (String.ofList name)]? = values'[trim (String.ofList name)]?) →
    substitute document values = substitute document values'

/-- **Filling replaces all placeholders and nothing else**, in one pass, whatever the document and
the values are. -/
theorem fillsPlaceholders (document : String) : FillsPlaceholders document := by
  constructor
  case disjoint => exact fun i j name name' h h' => h.disjoint h'
  case unique => exact fun values i a b ha hb => ha.unique hb
  case replaced =>
    intro values
    refine ⟨(pieces document.toList).flatMap (parts values), ?_, fun i part h => becomes_parts h, ?_⟩
    · rw [length_flatMap_parts, width_pieces]
    · rw [toList_substitute, flatten_flatMap_parts]
  case once =>
    rintro values name before after hname rfl
    exact substitute_append_placeholder hname before after values
  case needed => exact fun values values' h => substitute_congr h

-- The first of three braces stays, and a placeholder in a value is not filled again.
example : substitute "\x7b\x7b\x7bn\x7d\x7d\x7d" (.ofList [("n", "\x7b\x7bn\x7d\x7d^")]) =
    "\x7b\x7b\x7bn\x7d\x7d_\x7d" := by
  decide +kernel

end LabelPress
