import LabelPress.Proofs.Carets
import Mathlib.Algebra.Group.Nat.Even
import Mathlib.Data.List.Forall2
import Mathlib.Data.List.SplitBy

/-!
# Escaped text

Escaping doubles backslashes, and nothing else makes one. So the runs of backslashes of an escaped
text are those of the text, each twice as long, and halving them gives the text back but for its
carets, which have become underscores.

* `escapeChars_eq_replaceChar`: escaping replaces first all backslashes, then all carets.
* `runs_escapeChars`: the runs of an escaped text are the escaped runs.
* `even_of_run`: **a run of backslashes has even length**.
* `halveRuns_escapeChars`: **halving the runs gives the text with underscores for carets**.
* `escapesText`: all of this, and what escaping again does.
-/

namespace LabelPress.Zpl

open LabelPress.Text

/-! ## One pass and two -/

/-- The text with a replacement in each place of a character. -/
def replaceChar (c : Char) (replacement s : List Char) : List Char :=
  s.flatMap fun d => if d = c then replacement else [d]

/-- The second replacement does not touch what the first one put in. -/
theorem escapeChars_eq_replaceChar (s : List Char) :
    escapeChars s = replaceChar '^' ['_'] (replaceChar '\\' ['\\', '\\'] s) := by
  unfold escapeChars replaceChar
  rw [List.flatMap_assoc]
  refine List.flatMap_congr fun c _ => ?_
  unfold escapeChar
  split
  · rfl
  · rw [List.flatMap_singleton]

theorem escapeChars_flatten (parts : List (List Char)) :
    escapeChars parts.flatten = (parts.map escapeChars).flatten := by
  induction parts with
  | nil => rfl
  | cons part parts ih =>
    rw [List.flatten_cons, List.map_cons, List.flatten_cons, ← ih]
    exact List.flatMap_append

theorem count_backslash_escapeChars (s : List Char) :
    (escapeChars s).count '\\' = 2 * s.count '\\' := by
  induction s with
  | nil => rfl
  | cons c s ih =>
    have hchar : (escapeChar c).count '\\' = if c = '\\' then 2 else 0 := by
      unfold escapeChar
      split
      · rfl
      · split
        · rfl
        · rename_i hne _
          exact List.count_eq_zero.2 fun hmem => hne (List.mem_singleton.1 hmem).symm
    rw [escapeChars, List.flatMap_cons, List.count_append, hchar, ← escapeChars, ih,
      List.count_cons]
    simp only [beq_iff_eq]
    split <;> omega

/-! ## Text of one kind -/

/-- An underscore for a caret. -/
def underscore (c : Char) : Char := if c = '^' then '_' else c

theorem escapeChars_replicate (n : Nat) :
    escapeChars (List.replicate n '\\') = List.replicate (2 * n) '\\' := by
  induction n with
  | zero => rfl
  | succ n ih =>
    rw [List.replicate_succ, escapeChars, List.flatMap_cons, ← escapeChars, ih, Nat.mul_succ,
      List.replicate_succ, List.replicate_succ]
    rfl

theorem escapeChars_of_no_backslash {s : List Char} (h : ∀ c ∈ s, c ≠ '\\') :
    escapeChars s = s.map underscore := by
  rw [escapeChars, List.map_eq_flatMap]
  refine List.flatMap_congr fun c hc => ?_
  rw [escapeChar, if_neg (h c hc), underscore]
  split <;> rfl

/-! ## Runs -/

/-- Both are backslashes, or neither is. -/
def sameKind (c d : Char) : Bool := decide (c = '\\' ↔ d = '\\')

/-- A text cut into its runs of backslashes and what stands between them. -/
def runs (s : List Char) : List (List Char) := s.splitBy sameKind

variable {s t run u v : List Char} {n : Nat}

/-- A run has backslashes only, or none. -/
theorem eq_replicate_or_no_backslash (h : run ∈ runs s) :
    run = List.replicate run.length '\\' ∨ ∀ c ∈ run, c ≠ '\\' := by
  have hchain := List.isChain_of_mem_splitBy h
  clear h
  induction hchain with
  | nil => exact .inl rfl
  | singleton c =>
    by_cases hc : c = '\\'
    · exact .inl (by rw [hc]; rfl)
    · exact .inr (List.forall_mem_singleton.2 hc)
  | cons_cons hsame _ ih =>
    rename_i c d rest _
    have hkind := of_decide_eq_true hsame
    rcases ih with hall | hnone
    · have hd : d = '\\' := (List.cons_eq_cons.1 (hall.trans List.replicate_succ)).1
      refine .inl ?_
      rw [List.length_cons, List.replicate_succ, ← hall, hkind.2 hd]
    · have hd := hnone d List.mem_cons_self
      exact .inr (List.forall_mem_cons.2 ⟨fun hc => hd (hkind.1 hc), hnone⟩)

theorem sameKind_underscore (c d : Char) :
    sameKind (underscore c) (underscore d) = sameKind c d := by
  have hkind : ∀ c, underscore c = '\\' ↔ c = '\\' := by
    intro c
    unfold underscore
    split
    · rename_i hc
      rw [hc]
      decide
    · exact Iff.rfl
  rw [sameKind, sameKind, decide_eq_decide, hkind, hkind]

theorem head?_escapeChars (s : List Char) : (escapeChars s).head? = s.head?.map underscore := by
  cases s with
  | nil => rfl
  | cons c s =>
    rw [escapeChars, List.flatMap_cons, escapeChar, List.head?_cons, Option.map_some, underscore]
    split
    · rename_i hc
      rw [hc]
      rfl
    · split <;> rfl

theorem getLast?_escapeChars (s : List Char) :
    (escapeChars s).getLast? = s.getLast?.map underscore := by
  rcases List.eq_nil_or_concat s with rfl | ⟨s, c, rfl⟩
  · rfl
  · rw [List.concat_eq_append, escapeChars, List.flatMap_append, List.flatMap_singleton,
      escapeChar, List.getLast?_concat, Option.map_some, underscore, List.getLast?_append]
    split
    · rename_i hc
      rw [hc]
      rfl
    · split <;> rfl

theorem escapeChars_eq_nil : escapeChars s = [] ↔ s = [] := by
  rw [← List.head?_eq_none_iff, head?_escapeChars, Option.map_eq_none_iff, List.head?_eq_none_iff]

theorem isChain_escapeChars (h : run ∈ runs s) :
    List.IsChain (fun c d => sameKind c d = true) (escapeChars run) := by
  rcases eq_replicate_or_no_backslash h with hall | hnone
  · rw [hall, escapeChars_replicate]
    exact List.isChain_replicate_of_rel _ (by decide)
  · rw [escapeChars_of_no_backslash hnone, List.isChain_map]
    simp only [sameKind_underscore]
    exact List.isChain_of_mem_splitBy h

/-- **Escaping goes run by run**, because it keeps the kind of the first and of the last
character of each. -/
theorem runs_escapeChars (s : List Char) : runs (escapeChars s) = (runs s).map escapeChars := by
  refine List.splitBy_eq_iff.2 ⟨?_, ?_, ?_, ?_⟩
  · rw [← escapeChars_flatten, runs, List.flatten_splitBy]
  · rw [List.mem_map]
    rintro ⟨run, hrun, hnil⟩
    rw [escapeChars_eq_nil] at hnil
    exact List.nil_notMem_splitBy sameKind s (hnil ▸ hrun)
  · rw [List.forall_mem_map]
    exact fun run => isChain_escapeChars
  · rw [List.isChain_map]
    refine (List.isChain_getLast_head_splitBy sameKind s).imp fun a b => ?_
    rintro ⟨ha, hb, hother⟩
    have ha' := escapeChars_eq_nil.not.2 ha
    have hb' := escapeChars_eq_nil.not.2 hb
    refine ⟨ha', hb', ?_⟩
    have hlast : (escapeChars a).getLast ha' = underscore (a.getLast ha) := by
      rw [List.getLast_eq_iff_getLast?_eq_some, getLast?_escapeChars,
        List.getLast?_eq_some_getLast ha, Option.map_some]
    have hhead : (escapeChars b).head hb' = underscore (b.head hb) := by
      rw [List.head_eq_iff_head?_eq_some, head?_escapeChars, List.head?_eq_some_head hb,
        Option.map_some]
    rw [hlast, hhead, sameKind_underscore]
    exact hother

/-! ## Run lengths -/

/-- Backslashes between other characters are a run. -/
theorem replicate_mem_runs (hn : 0 < n) (hu : u.getLast? ≠ some '\\')
    (hv : v.head? ≠ some '\\') :
    List.replicate n '\\' ∈ runs (u ++ List.replicate n '\\' ++ v) := by
  have hother : ∀ {c}, c ≠ '\\' → sameKind c '\\' = false ∧ sameKind '\\' c = false := by
    intro c hc
    simp [sameKind, hc]
  have hself : runs (List.replicate n '\\') = [List.replicate n '\\'] :=
    List.splitBy_of_isChain (by simpa using hn.ne')
      (List.isChain_replicate_of_rel n (by decide))
  have hbefore : runs (u ++ List.replicate n '\\') = runs u ++ [List.replicate n '\\'] := by
    rw [← hself]
    refine List.splitBy_append fun c hc d hd => ?_
    rw [List.eq_of_mem_replicate (List.mem_of_mem_head? hd)]
    exact (hother fun h => hu (h ▸ hc)).1
  have hafter : runs (u ++ List.replicate n '\\' ++ v) =
      runs (u ++ List.replicate n '\\') ++ runs v := by
    refine List.splitBy_append fun c hc d hd => ?_
    rw [List.getLast?_append_of_ne_nil _ (by simpa using hn.ne')] at hc
    rw [List.eq_of_mem_replicate (List.mem_of_mem_getLast? hc)]
    exact (hother fun h => hv (h ▸ hd)).2
  rw [hafter, hbefore]
  simp

/-- **A run of backslashes has even length**, wherever it stands. -/
theorem even_of_run (h : escapeChars s = u ++ List.replicate n '\\' ++ v)
    (hu : u.getLast? ≠ some '\\') (hv : v.head? ≠ some '\\') : Even n := by
  rcases Nat.eq_zero_or_pos n with rfl | hn
  · exact Even.zero
  · have hmem := replicate_mem_runs hn hu hv
    rw [← h, runs_escapeChars, List.mem_map] at hmem
    obtain ⟨run, hrun, heq⟩ := hmem
    have hcount := count_backslash_escapeChars run
    rw [heq, List.count_replicate_self] at hcount
    exact ⟨run.count '\\', hcount.trans (Nat.two_mul _)⟩

/-! ## Halving -/

/-- Half of a run of backslashes; what is none stays. -/
def halveRun (run : List Char) : List Char :=
  if '\\' ∈ run then run.take (run.length / 2) else run

/-- The text with each run of backslashes half as long. -/
def halveRuns (s : List Char) : List Char := (runs s).flatMap halveRun

theorem halveRun_escapeChars (h : run ∈ runs s) :
    halveRun (escapeChars run) = run.map underscore := by
  unfold halveRun
  rcases eq_replicate_or_no_backslash h with hall | hnone
  · have hlen : run.length ≠ 0 := fun hnil =>
      List.nil_notMem_splitBy sameKind s (List.length_eq_zero_iff.1 hnil ▸ h)
    have hmem : '\\' ∈ List.replicate (2 * run.length) '\\' :=
      List.mem_replicate.2 ⟨by omega, rfl⟩
    rw [hall, escapeChars_replicate, if_pos hmem, List.length_replicate,
      Nat.mul_div_cancel_left _ Nat.two_pos, List.take_replicate, List.map_replicate,
      Nat.min_eq_left (by omega)]
    rfl
  · have hmem : '\\' ∉ escapeChars run := by
      rw [← List.count_eq_zero, count_backslash_escapeChars,
        List.count_eq_zero.2 fun hmem => hnone _ hmem rfl]
    rw [if_neg hmem, escapeChars_of_no_backslash hnone]

/-- **Halving the runs gives the text with underscores for carets.** -/
theorem halveRuns_escapeChars (s : List Char) :
    halveRuns (escapeChars s) = s.map underscore := by
  rw [halveRuns, runs_escapeChars, List.flatMap_map]
  calc (runs s).flatMap (fun run => halveRun (escapeChars run))
      = (runs s).flatMap (List.map underscore) :=
        List.flatMap_congr fun run hrun => halveRun_escapeChars hrun
    _ = (runs s).flatten.map underscore := by rw [List.map_flatten, List.flatMap_def]
    _ = s.map underscore := by rw [runs, List.flatten_splitBy]

/-! ## Texts that are escaped alike -/

/-- The characters are equal, or one is a caret and the other an underscore. -/
def Exchanged (c d : Char) : Prop := c = d ∨ c = '^' ∧ d = '_' ∨ c = '_' ∧ d = '^'

theorem underscore_eq_iff {c d : Char} : underscore c = underscore d ↔ Exchanged c d := by
  unfold underscore Exchanged
  split_ifs with hc hd hd <;> grind

theorem map_underscore_eq_iff :
    s.map underscore = t.map underscore ↔ List.Forall₂ Exchanged s t := by
  rw [← List.forall₂_eq_eq_eq, List.forall₂_map_left_iff, List.forall₂_map_right_iff]
  simp only [underscore_eq_iff]

theorem escapeChars_map_underscore (s : List Char) :
    escapeChars (s.map underscore) = escapeChars s := by
  rw [escapeChars, List.flatMap_map]
  refine List.flatMap_congr fun c _ => ?_
  unfold underscore
  split
  · rename_i hc
    rw [hc]
    rfl
  · rfl

/-- **Nothing is lost but the difference between a caret and an underscore.** -/
theorem escapeChars_eq_iff : escapeChars s = escapeChars t ↔ List.Forall₂ Exchanged s t := by
  rw [← map_underscore_eq_iff]
  constructor
  · intro h
    rw [← halveRuns_escapeChars, h, halveRuns_escapeChars]
  · intro h
    rw [← escapeChars_map_underscore, h, escapeChars_map_underscore]

/-! ## Escaping again -/

theorem caret_not_mem_iterate (s : List Char) (hn : 1 ≤ n) : '^' ∉ escapeChars^[n] s := by
  obtain ⟨k, rfl⟩ := Nat.exists_eq_add_of_le' hn
  rw [Function.iterate_succ_apply']
  exact caret_not_mem_escapeChars _

theorem count_backslash_iterate (s : List Char) (n : Nat) :
    (escapeChars^[n] s).count '\\' = 2 ^ n * s.count '\\' := by
  induction n with
  | zero => rw [pow_zero, one_mul, Function.iterate_zero_apply]
  | succ n ih =>
    rw [Function.iterate_succ_apply', count_backslash_escapeChars, ih, pow_succ']
    exact (Nat.mul_assoc _ _ _).symm

theorem toList_iterate_escape (s : String) (n : Nat) :
    (escape^[n] s).toList = escapeChars^[n] s.toList := by
  induction n with
  | zero => rfl
  | succ n ih =>
    rw [Function.iterate_succ_apply', Function.iterate_succ_apply', escape, toList_onChars, ih]

/-! ## What escaping does -/

/-- What escaping does to a text. -/
structure EscapesText (s : String) : Prop where
  /-- It replaces all backslashes and after that all carets. -/
  replace : (escape s).toList = replaceChar '^' ['_'] (replaceChar '\\' ['\\', '\\'] s.toList)
  /-- Parts of a text are escaped by themselves. -/
  append : ∀ t, escape (s ++ t) = escape s ++ escape t
  /-- No caret is left. -/
  caret : '^' ∉ (escape s).toList
  /-- Backslashes that no other backslash stands next to are even in number. -/
  even : ∀ (u v : List Char) (n : Nat), (escape s).toList = u ++ List.replicate n '\\' ++ v →
    u.getLast? ≠ some '\\' → v.head? ≠ some '\\' → Even n
  /-- Halving the runs of backslashes gives the text with underscores for carets. -/
  halve : halveRuns (escape s).toList = s.toList.map underscore
  /-- Texts are escaped alike that differ in carets and underscores only. -/
  alike : ∀ t, escape s = escape t ↔ List.Forall₂ Exchanged s.toList t.toList
  /-- Escaping again leaves no caret either, and each time doubles the backslashes. -/
  again : ∀ n, 1 ≤ n → '^' ∉ (escape^[n] s).toList ∧
    (escape^[n] s).toList.count '\\' = 2 ^ n * s.toList.count '\\'

/-- **Escaping is done character by character and loses nothing but what a caret was.** -/
theorem escapesText (s : String) : EscapesText s := by
  have hchars : ∀ s, (escape s).toList = escapeChars s.toList := toList_onChars _
  constructor
  case replace =>
    rw [hchars]
    exact escapeChars_eq_replaceChar _
  case append => exact escape_append s
  case caret =>
    rw [hchars]
    exact caret_not_mem_escapeChars _
  case even =>
    intro u v n h hu hv
    rw [hchars] at h
    exact even_of_run h hu hv
  case halve =>
    rw [hchars]
    exact halveRuns_escapeChars _
  case alike =>
    intro t
    rw [← String.toList_inj, hchars, hchars]
    exact escapeChars_eq_iff
  case again =>
    intro n hn
    rw [toList_iterate_escape]
    exact ⟨caret_not_mem_iterate _ hn, count_backslash_iterate _ n⟩

end LabelPress.Zpl
