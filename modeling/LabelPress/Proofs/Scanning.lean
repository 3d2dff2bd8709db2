import LabelPress.Placeholder
import Mathlib.Data.List.TakeWhile

/-!
# Where the scanner finds placeholders

`Piece.pieces` reads a text from the left. This file says what it finds, with no scanner in the
statements: a text has a placeholder if `{{name}}` occurs in it, the name not empty and without
braces (`HasPlaceholder`).

* `hole?_eq_some_iff`: what the front of a text must look like for the scanner to find one there.
* `pieces_append_source`: **the scanner cuts at every placeholder**, whatever the text before it:
  neither a brace before it nor an opening that was never closed can hide it.
* `pieces_eq_map_char`, `names_ne_nil`: a text is read as its characters if it has no placeholder,
  and the names in it are not empty otherwise.
* `Alike`: two texts that can stand for each other in any text without changing whether it has a
  placeholder. Any two texts without braces are alike (`alike_of_noBrace`), and a text is like what
  is printed for it (`alike_escapeChars`, `alike_remark`).
-/

namespace LabelPress.Piece

/-! ## Names -/

/-- No character of the text is a brace. -/
def NoBrace (s : List Char) : Prop := ∀ c ∈ s, isNameChar c = true

instance (s : List Char) : Decidable (NoBrace s) :=
  decidable_of_iff (s.all isNameChar = true) List.all_eq_true

/-- What can stand between the braces of a placeholder. -/
def IsName (name : List Char) : Prop := name ≠ [] ∧ NoBrace name

instance (name : List Char) : Decidable (IsName name) :=
  inferInstanceAs (Decidable (name ≠ [] ∧ NoBrace name))

theorem isNameChar_iff {c : Char} : isNameChar c = true ↔ c ≠ '{' ∧ c ≠ '}' := by
  simp [isNameChar]

theorem noBrace_iff {s : List Char} : NoBrace s ↔ '{' ∉ s ∧ '}' ∉ s := by
  refine ⟨fun h => ⟨fun hm => ?_, fun hm => ?_⟩, fun h c hc => isNameChar_iff.2 ⟨?_, ?_⟩⟩
  · exact absurd (h _ hm) (by decide)
  · exact absurd (h _ hm) (by decide)
  · rintro rfl; exact h.1 hc
  · rintro rfl; exact h.2 hc

@[simp] theorem noBrace_nil : NoBrace [] := by simp [NoBrace]

@[simp] theorem noBrace_cons {c : Char} {s : List Char} :
    NoBrace (c :: s) ↔ isNameChar c = true ∧ NoBrace s := by
  simp [NoBrace]

@[simp] theorem noBrace_append {s t : List Char} : NoBrace (s ++ t) ↔ NoBrace s ∧ NoBrace t := by
  simp only [NoBrace, List.mem_append, or_imp, forall_and]

/-! ## The front of a text -/

theorem source_hole (name rest : List Char) :
    (hole name).source ++ rest = '{' :: '{' :: (name ++ '}' :: '}' :: rest) := by
  simp [source]

/-- **The scanner finds a placeholder at the front** of exactly the texts that begin with one. -/
theorem hole?_eq_some_iff {s name rest : List Char} :
    hole? s = some (name, rest) ↔ IsName name ∧ s = (hole name).source ++ rest := by
  rw [source_hole]
  constructor
  · intro h
    unfold hole? at h
    split at h
    · rename_i s
      split at h
      · rename_i c n r hname hrest
        obtain ⟨rfl, rfl⟩ := Prod.mk.inj (Option.some.inj h)
        refine ⟨⟨by simp, fun d hd => ?_⟩, ?_⟩
        · rw [← hname] at hd
          exact List.mem_takeWhile_imp hd
        · rw [← hname, ← hrest, List.takeWhile_append_dropWhile]
      · cases h
    · cases h
  · rintro ⟨⟨hne, hname⟩, rfl⟩
    obtain ⟨c, n, rfl⟩ := List.exists_cons_of_ne_nil hne
    have ht : ((c :: n) ++ '}' :: '}' :: rest).takeWhile isNameChar = c :: n := by
      rw [List.takeWhile_append_of_pos hname]
      simp [isNameChar]
    have hd : ((c :: n) ++ '}' :: '}' :: rest).dropWhile isNameChar = '}' :: '}' :: rest := by
      rw [List.dropWhile_append_of_pos hname]
      simp [isNameChar]
    simp only [hole?, ht, hd]

theorem hole?_append {s name rest : List Char} (h : hole? s = some (name, rest)) (t : List Char) :
    hole? (s ++ t) = some (name, rest ++ t) := by
  obtain ⟨hn, rfl⟩ := hole?_eq_some_iff.1 h
  exact hole?_eq_some_iff.2 ⟨hn, List.append_assoc ..⟩

theorem hole?_eq_none_of_ne {c : Char} (h : c ≠ '{') (s : List Char) : hole? (c :: s) = none := by
  rw [Option.eq_none_iff_forall_ne_some]
  rintro ⟨name, rest⟩ hs
  have hs := (hole?_eq_some_iff.1 hs).2
  rw [source_hole] at hs
  exact h (List.cons.inj hs).1

/-- A placeholder that begins in `w ++ s` either ends in `w` or has the whole of `w` in its name,
unless a closing brace stands where `s` begins. -/
theorem name_split {w s name rest : List Char} (hs : s.head? ≠ some '}')
    (h : w ++ s = name ++ '}' :: '}' :: rest) :
    (∃ a, w = name ++ '}' :: '}' :: a ∧ rest = a ++ s) ∨
      ∃ x, name = w ++ x ∧ s = x ++ '}' :: '}' :: rest := by
  rcases List.append_eq_append_iff.1 h with ⟨x, hx, hsx⟩ | ⟨a, hwa, hsa⟩
  · exact .inr ⟨x, hx, hsx⟩
  · match a with
    | [] => exact .inr ⟨[], by simpa using hwa.symm, hsa.symm⟩
    | [d] =>
      simp only [List.cons_append, List.nil_append, List.cons.injEq] at hsa
      exact absurd (by rw [← hsa.2]; rfl) hs
    | d :: e :: a =>
      simp only [List.cons_append, List.cons.injEq] at hsa
      obtain ⟨rfl, rfl, hr⟩ := hsa
      exact .inl ⟨a, hwa, hr⟩

/-- An opening after a text without a placeholder at its front gives it none. -/
theorem hole?_append_opening {c : Char} {s : List Char} (h : hole? (c :: s) = none)
    (t : List Char) : hole? (c :: s ++ '{' :: '{' :: t) = none := by
  rw [Option.eq_none_iff_forall_ne_some]
  rintro ⟨name, rest⟩ hsome
  obtain ⟨hn, hs⟩ := hole?_eq_some_iff.1 hsome
  rw [source_hole, List.cons_append, List.cons.injEq] at hs
  obtain ⟨rfl, hs⟩ := hs
  cases s with
  | nil =>
    -- the name would begin with the second brace of the opening
    obtain ⟨d, n, rfl⟩ := List.exists_cons_of_ne_nil hn.1
    simp only [List.nil_append, List.cons_append, List.cons.injEq, true_and] at hs
    exact absurd (noBrace_cons.1 hn.2).1 (by rw [← hs.1]; decide)
  | cons d w =>
    rw [List.cons_append, List.cons.injEq] at hs
    obtain ⟨rfl, hs⟩ := hs
    rcases name_split (by simp) hs with ⟨a, rfl, -⟩ | ⟨x, rfl, hx⟩
    · rw [hole?_eq_some_iff.2 ⟨hn, (source_hole name a).symm⟩] at h
      cases h
    · cases x with
      | nil => simp at hx
      | cons e x =>
        obtain ⟨rfl, -⟩ := List.cons.inj hx
        exact absurd (hn.2 '{' (by simp)) (by decide)

/-! ## The whole text -/

/-- **The scanner cuts at every placeholder**: what is before one and what is after it are read as
if they stood alone. -/
theorem pieces_append_source {name : List Char} (hn : IsName name) (s t : List Char) :
    pieces (s ++ ((hole name).source ++ t)) = pieces s ++ hole name :: pieces t := by
  induction hl : s.length using Nat.strongRecOn generalizing s with
  | ind l ih =>
    subst hl
    cases h : hole? s with
    | some p =>
      obtain ⟨m, r⟩ := p
      have hlt : r.length < s.length := by
        have := length_of_hole? h
        omega
      rw [pieces_hole (hole?_append h _), pieces_hole h, ih _ hlt _ rfl, List.cons_append]
    | none =>
      cases s with
      | nil => rw [List.nil_append, pieces_hole (hole?_eq_some_iff.2 ⟨hn, rfl⟩)]; simp
      | cons c s =>
        have hc := hole?_append_opening h (name ++ '}' :: '}' :: t)
        rw [← source_hole, List.cons_append] at hc
        rw [List.cons_append, pieces_char hc, pieces_char h, ih _ (by simp) _ rfl,
          List.cons_append]

theorem flatMap_source_pieces (s : List Char) : (pieces s).flatMap source = s := by
  induction hl : s.length using Nat.strongRecOn generalizing s with
  | ind l ih =>
    subst hl
    cases h : hole? s with
    | some p =>
      obtain ⟨name, rest⟩ := p
      have hlt : rest.length < s.length := by
        have := length_of_hole? h
        omega
      rw [pieces_hole h, List.flatMap_cons, ih _ hlt _ rfl, (hole?_eq_some_iff.1 h).2]
    | none =>
      cases s with
      | nil => simp
      | cons c s =>
        rw [pieces_char h, List.flatMap_cons, ih _ (by simp) _ rfl]
        rfl

/-- A placeholder occurs in the text. -/
def HasPlaceholder (s : List Char) : Prop := ∃ name, IsName name ∧ (hole name).source <:+: s

theorem HasPlaceholder.mono {s t : List Char} (h : HasPlaceholder s) (hst : s <:+: t) :
    HasPlaceholder t :=
  h.imp fun _ hn => ⟨hn.1, hn.2.trans hst⟩

theorem hasPlaceholder_cons {c : Char} {s : List Char} :
    HasPlaceholder (c :: s) ↔ (hole? (c :: s)).isSome = true ∨ HasPlaceholder s := by
  constructor
  · rintro ⟨name, hn, h⟩
    rcases List.infix_cons_iff.1 h with ⟨r, hr⟩ | h
    · exact .inl (by rw [hole?_eq_some_iff.2 ⟨hn, hr.symm⟩]; rfl)
    · exact .inr ⟨name, hn, h⟩
  · rintro (h | h)
    · obtain ⟨⟨name, rest⟩, h⟩ := Option.isSome_iff_exists.1 h
      obtain ⟨hn, hs⟩ := hole?_eq_some_iff.1 h
      exact ⟨name, hn, [], rest, hs.symm⟩
    · exact h.mono (List.infix_cons_iff.2 (.inr (List.infix_refl _)))

/-- The pieces of a text are its characters if no placeholder occurs in it. -/
theorem pieces_eq_map_char {s : List Char} (h : ¬ HasPlaceholder s) : pieces s = s.map char := by
  induction s with
  | nil => exact pieces_nil
  | cons c s ih =>
    rw [hasPlaceholder_cons, not_or] at h
    rw [pieces_char (by simpa using h.1), ih h.2, List.map_cons]

/-- What stands between the braces; a character that stays has no name. -/
def name? : Piece → Option (List Char)
  | char _ => none
  | hole name => some name

/-- The names of the placeholders, in order. -/
def names (s : List Char) : List (List Char) := (pieces s).filterMap name?

theorem names_append_source {name : List Char} (hn : IsName name) (s t : List Char) :
    names (s ++ ((hole name).source ++ t)) = names s ++ name :: names t := by
  rw [names, pieces_append_source hn, List.filterMap_append]
  rfl

theorem names_ne_nil {s : List Char} (h : HasPlaceholder s) : names s ≠ [] := by
  obtain ⟨name, hn, a, b, rfl⟩ := h
  rw [List.append_assoc, names_append_source hn]
  simp

/-- Every name has a character and no brace. -/
theorem isName_of_mem_pieces {s name : List Char} (h : hole name ∈ pieces s) : IsName name := by
  induction hl : s.length using Nat.strongRecOn generalizing s with
  | ind l ih =>
    subst hl
    cases hs : hole? s with
    | some p =>
      obtain ⟨m, r⟩ := p
      have hlt : r.length < s.length := by
        have := length_of_hole? hs
        omega
      rw [pieces_hole hs, List.mem_cons] at h
      rcases h with h | h
      · obtain rfl := Piece.hole.inj h
        exact (hole?_eq_some_iff.1 hs).1
      · exact ih _ hlt h rfl
    | none =>
      cases s with
      | nil => simp at h
      | cons c s =>
        rw [pieces_char hs, List.mem_cons] at h
        exact ih _ (by simp) (h.resolve_left (by simp)) rfl

/-! ## Texts that can stand for each other -/

/-- In any text, `s` can be replaced by `t` and back without making or removing a placeholder. -/
def Alike (s t : List Char) : Prop :=
  ∀ a b, HasPlaceholder (a ++ s ++ b) ↔ HasPlaceholder (a ++ t ++ b)

theorem Alike.refl (s : List Char) : Alike s s := fun _ _ => Iff.rfl

theorem Alike.trans {s t u : List Char} (h : Alike s t) (h' : Alike t u) : Alike s u :=
  fun a b => (h a b).trans (h' a b)

theorem Alike.append {s t s' t' : List Char} (h : Alike s t) (h' : Alike s' t') :
    Alike (s ++ s') (t ++ t') := fun a b => by
  rw [← List.append_assoc a, List.append_assoc (a ++ s), h a, ← List.append_assoc,
    h' (a ++ t) b, List.append_assoc a]

theorem Alike.hasPlaceholder_iff {s t : List Char} (h : Alike s t) :
    HasPlaceholder s ↔ HasPlaceholder t := by
  simpa using h [] []

/-- Whether a placeholder begins at the front of a text does not depend on which characters without
braces stand further on. -/
theorem isSome_hole?_replace {u v : List Char} (hu : NoBrace u) (hune : u ≠ []) (hv : NoBrace v)
    (hvne : v ≠ []) {c : Char} {a b : List Char} (h : (hole? (c :: a ++ u ++ b)).isSome = true) :
    (hole? (c :: a ++ v ++ b)).isSome = true := by
  obtain ⟨d, u, rfl⟩ := List.exists_cons_of_ne_nil hune
  obtain ⟨hd1, hd2⟩ := isNameChar_iff.1 (noBrace_cons.1 hu).1
  obtain ⟨⟨name, rest⟩, hsome⟩ := Option.isSome_iff_exists.1 h
  obtain ⟨hn, he⟩ := hole?_eq_some_iff.1 hsome
  rw [source_hole, List.cons_append, List.cons_append, List.cons.injEq] at he
  obtain ⟨rfl, he⟩ := he
  cases a with
  | nil =>
    simp only [List.nil_append, List.cons_append, List.cons.injEq] at he
    exact absurd he.1 hd1
  | cons e w =>
    rw [List.cons_append, List.cons_append, List.cons.injEq, List.append_assoc] at he
    obtain ⟨rfl, he⟩ := he
    have found : ∀ m r, IsName m → w ++ (v ++ b) = m ++ '}' :: '}' :: r →
        (hole? ('{' :: '{' :: w ++ v ++ b)).isSome = true := fun m r hm hr => by
      have hs : '{' :: '{' :: w ++ v ++ b = (hole m).source ++ r := by
        rw [source_hole, ← hr]
        simp
      rw [hole?_eq_some_iff.2 ⟨hm, hs⟩]
      rfl
    rcases name_split (by simpa using hd2) he with ⟨x, rfl, -⟩ | ⟨x, rfl, hx⟩
    · exact found name (x ++ (v ++ b)) hn (by simp)
    · -- the whole text to be replaced lies in the name, which goes on with `y`
      have hy : ∃ y, x = (d :: u) ++ y ∧ b = y ++ '}' :: '}' :: rest := by
        rcases List.append_eq_append_iff.1 hx with h | ⟨y, hy, hb⟩
        · exact h
        · cases y with
          | nil => exact ⟨[], by simpa using hy.symm, by simpa using hb.symm⟩
          | cons f y =>
            obtain ⟨rfl, -⟩ := List.cons.inj hb
            exact absurd (hu '}' (by rw [hy]; simp)) (by decide)
      obtain ⟨y, rfl, rfl⟩ := hy
      obtain ⟨hw, -, hy⟩ : NoBrace w ∧ NoBrace (d :: u) ∧ NoBrace y := by
        simpa only [noBrace_append] using hn.2
      exact found (w ++ (v ++ y)) rest ⟨by simp [hvne], by simp [hw, hv, hy]⟩ (by simp)

/-- **Texts without braces are alike**, whatever else they hold. -/
theorem alike_of_noBrace {u v : List Char} (hu : NoBrace u) (hune : u ≠ []) (hv : NoBrace v)
    (hvne : v ≠ []) : Alike u v := by
  have drop : ∀ {w : List Char}, NoBrace w → ∀ b, HasPlaceholder (w ++ b) ↔ HasPlaceholder b := by
    intro w hw b
    induction w with
    | nil => rfl
    | cons c w ih =>
      rw [noBrace_cons] at hw
      rw [List.cons_append, hasPlaceholder_cons, hole?_eq_none_of_ne (isNameChar_iff.1 hw.1).1,
        ih hw.2]
      simp
  intro a b
  induction a with
  | nil => rw [List.nil_append, List.nil_append, drop hu, drop hv]
  | cons c a ih =>
    simp only [List.cons_append, List.append_assoc] at ih ⊢
    rw [hasPlaceholder_cons, hasPlaceholder_cons, ih]
    refine or_congr_left ⟨fun h => ?_, fun h => ?_⟩
    · simpa using isSome_hole?_replace hu hune hv hvne (by simpa using h)
    · simpa using isSome_hole?_replace hv hvne hu hune (by simpa using h)

/-- What is printed for a text is like the text, if each character is either kept or replaced by
characters without braces. -/
theorem alike_flatMap {f : Char → List Char}
    (hf : ∀ c, f c = [c] ∨ isNameChar c = true ∧ NoBrace (f c) ∧ f c ≠ []) (s : List Char) :
    Alike (s.flatMap f) s := by
  induction s with
  | nil => exact .refl _
  | cons c s ih =>
    rw [List.flatMap_cons, ← List.singleton_append]
    refine .append ?_ ih
    rcases hf c with h | ⟨hc, hfc, hne⟩
    · rw [h]
      exact .refl _
    · exact alike_of_noBrace hfc hne (by simpa using hc) (by simp)

theorem alike_escapeChars (s : List Char) : Alike (Zpl.escapeChars s) s := by
  refine alike_flatMap (fun c => ?_) s
  unfold Zpl.escapeChar
  split
  · rename_i h
    subst h
    exact .inr (by decide)
  · split
    · rename_i h
      subst h
      exact .inr (by decide)
    · exact .inl rfl

theorem alike_remark (s : List Char) : Alike ((Zpl.escapeChars s).map Zpl.remarkChar) s := by
  refine .trans ?_ (alike_escapeChars s)
  rw [List.map_eq_flatMap]
  refine alike_flatMap (fun c => ?_) _
  unfold Zpl.remarkChar
  split
  · rename_i h
    subst h
    exact .inr (by decide)
  · split
    · rename_i h
      rcases h with rfl | rfl <;> exact .inr (by decide)
    · exact .inl rfl

end LabelPress.Piece
