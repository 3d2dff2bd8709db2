import LabelPress.Proofs.Emission
import LabelPress.Template.Compile
import LabelPress.Template.Variables
import Mathlib.Data.List.FinRange
import Mathlib.Tactic.SplitIfs

/-!
# One order for what prints

Ranks are in a total order, since coordinates are compared by bits and not as numbers. Printing
sorts by rank and keeps the order of what has one rank, and there is only one list that is sorted
this way.

* `Rank.atMost_iff`: the order of ranks compares layers, then rows, then columns.
* `filter_sortByRank`: sorting keeps the items of one rank as they stand.
* `stableSort_iff`: **the sorted list is the only one** that does so.
* `Rearranged.filter_eq`: a list is moved so that ties keep their order; for each rank its items
  stay the same.
* `printOrder_canonical`: **what prints does not depend on the order in which elements are given**,
  ties apart, nor on hidden elements.
-/

namespace LabelPress

open LabelPress.Number LabelPress.Zpl

/-! ## Ranks -/

theorem orderKey_inj {a b : UInt64} : orderKey a = orderKey b ↔ a = b := by
  have ha := a.toNat_lt
  have hb := b.toNat_lt
  rw [← UInt64.toNat_inj]
  unfold orderKey
  dsimp only
  split_ifs <;> omega

/-- An order in which any two things can be compared. -/
structure TotalPreorder {α : Type} (r : α → α → Bool) : Prop where
  total : ∀ a b, r a b = true ∨ r b a = true
  trans : ∀ a b c, r a b = true → r b c = true → r a c = true

namespace Rank

theorem atMost_iff {a b : Rank} :
    a.atMost b = true ↔ a.layer < b.layer ∨ a.layer = b.layer ∧
      (orderKey a.y < orderKey b.y ∨
        orderKey a.y = orderKey b.y ∧ orderKey a.x ≤ orderKey b.x) := by
  unfold atMost
  split_ifs with hlayer hy
  · simp only [decide_eq_true_eq]
    omega
  · simp only [decide_eq_true_eq]
    omega
  · simp only [decide_eq_true_eq]
    omega

theorem totalPreorder_atMost : TotalPreorder atMost where
  total a b := by
    rw [atMost_iff, atMost_iff]
    omega
  trans a b c hab hbc := by
    rw [atMost_iff] at *
    omega

/-- Whether neither comes before the other. -/
def ties (a b : Rank) : Bool := a.atMost b && b.atMost a

/-- Ranks tie only if they are the same: no two different coordinates are at the same place. -/
theorem ties_iff {a b : Rank} : a.ties b = true ↔ a = b := by
  rw [ties, Bool.and_eq_true, atMost_iff, atMost_iff]
  constructor
  · intro h
    have hlayer : a.layer = b.layer := by omega
    have hy : a.y = b.y := orderKey_inj.1 (by omega)
    have hx : a.x = b.x := orderKey_inj.1 (by omega)
    cases a
    cases b
    simp_all
  · rintro rfl
    omega

end Rank

/-! ## Sorting -/

section StableSort

variable {α : Type} {rank : α → Rank} {r : Rank}

/-- The items of rank `r`. -/
def ofRank (rank : α → Rank) (r : Rank) (a : α) : Bool := (rank a).ties r

theorem ofRank_iff {a : α} : ofRank rank r a = true ↔ rank a = r := Rank.ties_iff

theorem pairwise_sortByRank (rank : α → Rank) (l : List α) :
    (sortByRank rank l).Pairwise fun a b => (rank a).atMost (rank b) = true := by
  have : Std.Total fun a b => (rank a).atMost (rank b) = true :=
    ⟨fun a b => Rank.totalPreorder_atMost.total (rank a) (rank b)⟩
  have : IsTrans α fun a b => (rank a).atMost (rank b) = true :=
    ⟨fun a b c => Rank.totalPreorder_atMost.trans (rank a) (rank b) (rank c)⟩
  rw [sortByRank_eq_insertionSort]
  exact List.pairwise_insertionSort _ l

theorem filter_insertInOrder (a : α) (l : List α) :
    (insertInOrder rank a l).filter (ofRank rank r) =
      (a :: l).filter (ofRank rank r) := by
  induction l with
  | nil => rfl
  | cons b l ih =>
    unfold insertInOrder
    split_ifs with hab
    · rfl
    · -- `b` comes strictly before `a`, so not both of them have the rank `r`
      have hne : ofRank rank r a = true → ¬ ofRank rank r b = true := by
        intro ha hb
        rw [ofRank_iff] at ha hb
        rw [ha, hb] at hab
        exact hab (by simpa using Rank.totalPreorder_atMost.total r r)
      by_cases ha : ofRank rank r a = true
      · rw [List.filter_cons_of_neg (hne ha), ih, List.filter_cons_of_pos ha,
          List.filter_cons_of_pos ha, List.filter_cons_of_neg (hne ha)]
      · rw [List.filter_cons_of_neg ha] at ih ⊢
        rw [List.filter_cons, ih, ← List.filter_cons]

/-- Sorting keeps the items of one rank as they stand. -/
theorem filter_sortByRank (l : List α) :
    (sortByRank rank l).filter (ofRank rank r) =
      l.filter (ofRank rank r) := by
  induction l with
  | nil => rfl
  | cons a l ih =>
    have hcons : sortByRank rank (a :: l) = insertInOrder rank a (sortByRank rank l) := rfl
    rw [hcons, filter_insertInOrder, List.filter_cons, ih, List.filter_cons]

/-- `sorted` has the items of `l` in the order of their ranks, and those of one rank as they stand
in `l`. -/
structure StableSort (rank : α → Rank) (l sorted : List α) : Prop where
  perm : sorted.Perm l
  ascending : sorted.Pairwise fun a b => (rank a).atMost (rank b) = true
  ties : ∀ r, sorted.filter (ofRank rank r) = l.filter (ofRank rank r)

/-- A sorted list is known from its items of each rank. -/
theorem eq_of_filter_eq {A B : List α}
    (hA : A.Pairwise fun a b => (rank a).atMost (rank b) = true)
    (hB : B.Pairwise fun a b => (rank a).atMost (rank b) = true)
    (h : ∀ r, A.filter (ofRank rank r) = B.filter (ofRank rank r)) :
    A = B := by
  have hself : ∀ a, ofRank rank (rank a) a = true := fun a => ofRank_iff.2 rfl
  have hmem : ∀ {c : α} {A B : List α},
      (∀ r, A.filter (ofRank rank r) = B.filter (ofRank rank r)) →
        c ∈ A → c ∈ B := by
    intro c A B h hc
    have hfilter := List.mem_filter.2 ⟨hc, hself c⟩
    rw [h] at hfilter
    exact (List.mem_filter.1 hfilter).1
  induction A generalizing B with
  | nil =>
    cases B with
    | nil => rfl
    | cons b B => exact absurd (hmem (fun r => (h r).symm) List.mem_cons_self) List.not_mem_nil
  | cons a A ih =>
    cases B with
    | nil => exact absurd (hmem h List.mem_cons_self) List.not_mem_nil
    | cons b B =>
      rw [List.pairwise_cons] at hA hB
      -- each head is in the other list, so neither comes after the other
      have hab : (rank a).atMost (rank b) = true := by
        rcases List.mem_cons.1 (hmem (fun r => (h r).symm) (List.mem_cons_self (l := B)))
          with rfl | hb
        · simpa using Rank.totalPreorder_atMost.total (rank b) (rank b)
        · exact hA.1 b hb
      have hba : (rank b).atMost (rank a) = true := by
        rcases List.mem_cons.1 (hmem h (List.mem_cons_self (l := A))) with rfl | ha
        · simpa using Rank.totalPreorder_atMost.total (rank a) (rank a)
        · exact hB.1 a ha
      have htie : ofRank rank (rank a) b = true := by rw [ofRank, Rank.ties, hba, hab]; rfl
      have hhead := h (rank a)
      rw [List.filter_cons_of_pos (hself a), List.filter_cons_of_pos htie] at hhead
      obtain ⟨rfl, -⟩ := List.cons.inj hhead
      rw [ih hA.2 hB.2 fun r => ?_]
      have htail := h r
      rw [List.filter_cons, List.filter_cons] at htail
      split_ifs at htail
      · exact (List.cons.inj htail).2
      · exact htail

/-- **The sorted list is the only stable sort of a list.** -/
theorem stableSort_iff {l sorted : List α} :
    StableSort rank l sorted ↔ sorted = sortByRank rank l := by
  constructor
  · intro h
    refine eq_of_filter_eq h.ascending (pairwise_sortByRank rank l) fun r => ?_
    rw [h.ties, filter_sortByRank]
  · rintro rfl
    exact ⟨sortByRank_perm rank l, pairwise_sortByRank rank l, fun _ => filter_sortByRank l⟩

/-! ## Lists with the same items -/

/-- `B` has the items of `A`, moved in any way that keeps the order of those that tie. -/
def Rearranged (rank : α → Rank) (A B : List α) : Prop :=
  ∃ σ : Fin A.length ≃ Fin B.length, (∀ i, B[σ i] = A[i]) ∧
    ∀ i j, i < j → (rank A[i]).ties (rank A[j]) = true → σ i < σ j

theorem filter_eq_map_finRange (p : α → Bool) (l : List α) :
    l.filter p = ((List.finRange l.length).filter fun i => p l[i]).map fun i => l[i] := by
  conv_lhs => rw [← List.map_getElem_finRange l, List.filter_map]
  rfl

/-- What is moved keeps the items of each rank. -/
theorem Rearranged.filter_eq {A B : List α} (h : Rearranged rank A B) (r : Rank) :
    A.filter (ofRank rank r) = B.filter (ofRank rank r) := by
  obtain ⟨σ, hitem, hmono⟩ := h
  rw [filter_eq_map_finRange _ A, filter_eq_map_finRange _ B]
  set I := (List.finRange A.length).filter fun i => ofRank rank r A[i]
  set J := (List.finRange B.length).filter fun i => ofRank rank r B[i]
  have hIJ : I.map σ = J := by
    have hsortI : (I.map σ).Pairwise (· < ·) := by
      rw [List.pairwise_map]
      refine List.Pairwise.imp_of_mem ?_ ((List.pairwise_lt_finRange _).filter _)
      intro i j hi hj hij
      have hri := ofRank_iff.1 (List.mem_filter.1 hi).2
      have hrj := ofRank_iff.1 (List.mem_filter.1 hj).2
      exact hmono i j hij (Rank.ties_iff.2 (hri.trans hrj.symm))
    have hsortJ : J.Pairwise (· < ·) := (List.pairwise_lt_finRange _).filter _
    have hperm : (I.map σ).Perm J := by
      rw [List.perm_ext_iff_of_nodup (hsortI.imp fun h => ne_of_lt h)
        (hsortJ.imp fun h => ne_of_lt h)]
      intro k
      rw [List.mem_map]
      constructor
      · rintro ⟨i, hi, rfl⟩
        refine List.mem_filter.2 ⟨List.mem_finRange _, ?_⟩
        rw [hitem]
        exact (List.mem_filter.1 hi).2
      · intro hk
        have hitem' : A[σ.symm k] = B[k] := by
          rw [← hitem]
          simp only [σ.apply_symm_apply]
        refine ⟨σ.symm k, List.mem_filter.2 ⟨List.mem_finRange _, ?_⟩, σ.apply_symm_apply k⟩
        rw [hitem']
        exact (List.mem_filter.1 hk).2
    exact hperm.eq_of_pairwise (fun i j _ _ hij hji => absurd hij (lt_asymm hji)) hsortI hsortJ
  rw [← hIJ, List.map_map]
  exact List.map_congr_left fun i _ => (hitem i).symm

theorem Rearranged.sortByRank_eq {A B : List α} (h : Rearranged rank A B) :
    sortByRank rank A = sortByRank rank B := by
  refine eq_of_filter_eq (pairwise_sortByRank rank A) (pairwise_sortByRank rank B) fun r => ?_
  rw [filter_sortByRank, filter_sortByRank, h.filter_eq]

end StableSort

/-! ## What prints -/

theorem totalPreorder_element : TotalPreorder Element.atMost where
  total a b := Rank.totalPreorder_atMost.total a.rank b.rank
  trans a b c := Rank.totalPreorder_atMost.trans a.rank b.rank c.rank

/-- The visible elements print in the only order that goes by rank and keeps ties. -/
structure PrintsInOrder (elements : List Element) : Prop where
  /-- What prints is the stable sort of the visible elements, and no other list is. -/
  sorted : ∀ l, StableSort Element.rank (elements.filter (·.frame.visible)) l ↔
    l = printOrder elements
  /-- A program has the commands of each of them, one element after the other. -/
  body : ∀ canvas options, (compileProgram canvas elements options).commands =
    preamble canvas ++ tagSetup options (printOrder elements) ++
      (printOrder elements).flatMap (·.commands canvas.dpi options) ++ [.endFormat]
  /-- Elements may be given in any other order that keeps ties, and with any other hidden ones. -/
  same : ∀ others, Rearranged Element.rank (elements.filter (·.frame.visible))
      (others.filter (·.frame.visible)) →
    (∀ canvas options, (compileProgram canvas elements options).document =
        (compileProgram canvas others options).document) ∧
      fillableVariables elements = fillableVariables others ∧
        displayNames elements = displayNames others

/-- **The order of printing is canonical**: ranks are totally preordered, whatever bits the
coordinates have, and sorting by rank is the only stable way to put a list in that order. So what a
label shows depends neither on the order in which its elements are given, ties apart, nor on hidden
elements. -/
theorem printOrder_canonical :
    TotalPreorder Rank.atMost ∧ TotalPreorder Element.atMost ∧
      (∀ (α : Type) (rank : α → Rank) (l sorted : List α),
        StableSort rank l sorted ↔ sorted = sortByRank rank l) ∧
        ∀ elements, PrintsInOrder elements := by
  refine ⟨Rank.totalPreorder_atMost, totalPreorder_element, fun _ _ _ _ => stableSort_iff, ?_⟩
  intro elements
  refine ⟨fun _ => stableSort_iff, fun _ _ => rfl, ?_⟩
  intro others h
  have hprint : printOrder elements = printOrder others := h.sortByRank_eq
  refine ⟨fun canvas options => ?_, ?_, ?_⟩
  · simp only [compileProgram, hprint]
  · rw [fillableVariables, fillableVariables, hprint]
  · rw [displayNames, displayNames, hprint]

end LabelPress
