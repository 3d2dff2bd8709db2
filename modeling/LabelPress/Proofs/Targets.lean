import LabelPress.CommandLine.Run
import LabelPress.Proofs.DataUrls
import LabelPress.Proofs.IntegerLiterals
import Mathlib.Data.Nat.Digits.Defs

/-!
# Targets

A target names a printer by its host, with a port behind a colon or without one. A host with colons
of its own, such as an IPv6 address, stands alone.

* `splitAtLast?_eq_some_iff`: where a text is cut.
* `natUpTo?_eq_some_iff`: which texts are read as a number (`SpellsNumber`).
* `readsTarget`: **a port is taken off the host exactly if it stands behind the only colon**
  (`NamesPort`). Any other target is all host, and nothing of it is lost.
-/

namespace LabelPress

open LabelPress.Json LabelPress.Number LabelPress.Text

/-! ## Cutting -/

section Cutting

variable {sep : Char} {s before after : List Char}

theorem splitAt?_eq_some_iff :
    splitAt? sep s = some (before, after) ↔ s = before ++ sep :: after ∧ sep ∉ before := by
  constructor
  · intro h
    have hmem : sep ∈ s := by
      by_contra hnot
      rw [splitAt?_eq_none_iff.2 hnot] at h
      cases h
    obtain ⟨before', after', rfl, hnot⟩ := List.eq_append_cons_of_mem hmem
    rw [splitAt?_append hnot] at h
    cases h
    exact ⟨rfl, hnot⟩
  · rintro ⟨rfl, hnot⟩
    exact splitAt?_append hnot

theorem splitAtLast?_eq_some_iff :
    splitAtLast? sep s = some (before, after) ↔ s = before ++ sep :: after ∧ sep ∉ after := by
  rw [splitAtLast?, Option.map_eq_some_iff]
  constructor
  · rintro ⟨⟨after', before'⟩, hsplit, heq⟩
    obtain ⟨hs, hnot⟩ := splitAt?_eq_some_iff.1 hsplit
    cases heq
    rw [List.reverse_eq_iff] at hs
    exact ⟨by simpa using hs, by simpa using hnot⟩
  · rintro ⟨rfl, hnot⟩
    refine ⟨(after.reverse, before.reverse), ?_, by simp⟩
    rw [splitAt?_eq_some_iff]
    exact ⟨by simp, by simpa using hnot⟩

end Cutting

/-! ## Numbers -/

/-- The value of a decimal digit is its place among the ten digits. -/
def HasDecimalValue (d : Char) (v : ℕ) : Prop :=
  "0123456789".toList[v]? = some d

/-- Decimal digits, the highest first, spell a number. Zeros in front do not matter. -/
def SpellsNumber (digits : List Char) (n : ℕ) : Prop :=
  digits ≠ [] ∧ ∃ values, List.Forall₂ HasDecimalValue digits values ∧
    n = Nat.ofDigits 10 values.reverse

/-- A text spells the number of a port, with or without a plus sign. -/
def SpellsPort (text : List Char) (port : ℕ) : Prop :=
  port ≤ 65535 ∧
    (SpellsNumber text port ∨ ∃ digits, text = '+' :: digits ∧ SpellsNumber digits port)

section Numbers

variable {d : Char} {v n bound port : ℕ} {s text : List Char} {values : List ℕ}

theorem hasDecimalValue_iff : HasDecimalValue d v ↔ d.isDigit = true ∧ v = digitValue d := by
  constructor
  · intro h
    have htable : ∀ digit ∈ "0123456789".toList.zipIdx,
        digit.1.isDigit = true ∧ digit.2 = digitValue digit.1 := by
      decide
    exact htable (d, v) (List.mk_mem_zipIdx_iff_getElem?.2 h)
  · rintro ⟨hd, rfl⟩
    have htable : ∀ k < 10, "0123456789".toList[k]? = some (Char.ofNat ('0'.toNat + k)) := by
      decide
    have hrange := Numeral.isDigit_iff.1 hd
    have hzero : '0'.toNat = 48 := rfl
    have hcode : '0'.toNat + digitValue d = d.toNat := by
      rw [digitValue]
      omega
    have hplace := htable _ (Numeral.digitValue_lt hd)
    rwa [hcode, Char.ofNat_toNat] at hplace

theorem forall₂_hasDecimalValue_iff : List.Forall₂ HasDecimalValue s values ↔
    (∀ d ∈ s, d.isDigit = true) ∧ values = s.map digitValue := by
  induction s generalizing values with
  | nil => simp
  | cons d s ih =>
    cases values with
    | nil => simp
    | cons v values =>
      rw [List.forall₂_cons, ih, hasDecimalValue_iff]
      simp only [List.forall_mem_cons, List.map_cons, List.cons.injEq]
      tauto

theorem natOfDigits_eq (s : List Char) :
    natOfDigits s = Nat.ofDigits 10 (s.map digitValue).reverse := by
  induction s using List.reverseRecOn with
  | nil => rfl
  | append_singleton s d ih =>
    rw [Numeral.natOfDigits_append_singleton, ih, List.map_append, List.map_singleton,
      List.reverse_append, List.reverse_singleton, List.singleton_append, Nat.ofDigits_cons,
      Nat.add_comm]

theorem natOfDigits?_eq_some_iff : natOfDigits? s = some n ↔ SpellsNumber s n := by
  have hall : (s.all Char.isDigit = true) ↔ ∀ d ∈ s, d.isDigit = true := List.all_eq_true
  rw [natOfDigits?, Option.ite_none_right_eq_some, Option.some.injEq, hall, natOfDigits_eq,
    SpellsNumber]
  simp only [forall₂_hasDecimalValue_iff]
  constructor
  · rintro ⟨⟨hne, hdigits⟩, rfl⟩
    exact ⟨hne, _, ⟨hdigits, rfl⟩, rfl⟩
  · rintro ⟨hne, _, ⟨hdigits, rfl⟩, rfl⟩
    exact ⟨⟨hne, hdigits⟩, rfl⟩

theorem SpellsNumber.isDigit (h : SpellsNumber s n) : ∀ d ∈ s, d.isDigit = true := by
  obtain ⟨-, values, hvalues, -⟩ := h
  exact (forall₂_hasDecimalValue_iff.1 hvalues).1

theorem natUpTo?_eq_some_iff : natUpTo? bound s = some n ↔
    n ≤ bound ∧ (SpellsNumber s n ∨ ∃ digits, s = '+' :: digits ∧ SpellsNumber digits n) := by
  rw [natUpTo?, Option.filter_eq_some_iff, decide_eq_true_eq, natOfDigits?_eq_some_iff, and_comm]
  refine and_congr_right fun _ => ?_
  -- The sign is no digit, so the number stands in the whole text or behind the sign.
  by_cases hsign : ∃ digits, s = '+' :: digits
  · obtain ⟨digits, rfl⟩ := hsign
    have hplus : ¬ SpellsNumber ('+' :: digits) n := fun h =>
      absurd (h.isDigit '+' List.mem_cons_self) (by decide)
    simp [dropText?, hplus]
  · have hdrop : dropText? ['+'] s = none := by
      rw [Option.eq_none_iff_forall_ne_some]
      exact fun digits h => hsign ⟨digits, dropText?_eq_some_iff.1 h⟩
    rw [hdrop, Option.getD_none]
    constructor
    · exact .inl
    · intro h
      rcases h with hspells | ⟨digits, hs, -⟩
      · exact hspells
      · exact absurd ⟨digits, hs⟩ hsign

theorem spellsPort_iff : SpellsPort text port ↔ natUpTo? 65535 text = some port :=
  natUpTo?_eq_some_iff.symm

theorem SpellsPort.colon_not_mem (h : SpellsPort text port) : ':' ∉ text := by
  have hdigits : ∀ {digits : List Char}, SpellsNumber digits port → ':' ∉ digits :=
    fun hspells hmem => absurd (hspells.isDigit ':' hmem) (by decide)
  rcases h with ⟨-, hspells | ⟨digits, rfl, hspells⟩⟩
  · exact hdigits hspells
  · exact List.not_mem_cons_of_ne_of_not_mem (by decide) (hdigits hspells)

/-- The digits of a port spell it. -/
theorem spellsPort_toDigits (h : port ≤ 65535) : SpellsPort (Nat.toDigits 10 port) port := by
  have hwhole := Numeral.isWhole_toDigits port
  refine ⟨h, .inl (natOfDigits?_eq_some_iff.1 ?_)⟩
  rw [natOfDigits?, if_pos ⟨hwhole.ne_nil, List.all_eq_true.2 hwhole.isDigit⟩,
    Numeral.natOfDigits_toDigits]

end Numbers

/-! ## Targets -/

/-- The target is a host without colons, a colon, and the text of a port. -/
def NamesPort (target host : String) (port : ℕ) : Prop :=
  ∃ text, target.toList = host.toList ++ ':' :: text ∧ ':' ∉ host.toList ∧ SpellsPort text port

section Targets

variable {target host : String} {port : ℕ}

theorem ofTarget_of_namesPort (h : NamesPort target host port) :
    Address.ofTarget target = ⟨host, port⟩ := by
  obtain ⟨text, htarget, hhost, hport⟩ := h
  rw [Address.ofTarget, splitAtLast?_eq_some_iff.2 ⟨htarget, hport.colon_not_mem⟩]
  dsimp only
  rw [spellsPort_iff.1 hport]
  dsimp only
  rw [if_neg hhost, String.ofList_toList]

/-- Without a port the whole target is the host. -/
theorem ofTarget_of_not_namesPort (h : ∀ host port, ¬ NamesPort target host port) :
    Address.ofTarget target = ⟨target, defaultPort⟩ := by
  unfold Address.ofTarget
  split
  · rename_i host text hsplit
    split
    · rename_i port hport
      split_ifs with hcolon
      · rfl
      · have hnames : NamesPort target (String.ofList host) port := by
          refine ⟨text, ?_, ?_, spellsPort_iff.2 hport⟩
          · rw [String.toList_ofList]
            exact (splitAtLast?_eq_some_iff.1 hsplit).1
          · rwa [String.toList_ofList]
        exact (h _ _ hnames).elim
    · rfl
  · rfl

theorem NamesPort.count_colon (h : NamesPort target host port) : target.toList.count ':' = 1 := by
  obtain ⟨text, htarget, hhost, hport⟩ := h
  rw [htarget, List.count_append, List.count_eq_zero.2 hhost, List.count_cons_self,
    List.count_eq_zero.2 hport.colon_not_mem]

theorem NamesPort.spellsPort (h : NamesPort target host port) {before text : List Char}
    (htarget : target.toList = before ++ ':' :: text) : SpellsPort text port := by
  have hcount := h.count_colon
  obtain ⟨text', htarget', hhost, hport⟩ := h
  have hbefore : ':' ∉ before := by
    rw [htarget, List.count_append, List.count_cons_self] at hcount
    rw [← List.count_eq_zero]
    omega
  have hsplit : splitAt? ':' (before ++ ':' :: text) = some (before, text) :=
    splitAt?_append hbefore
  rw [← htarget, htarget', splitAt?_append hhost] at hsplit
  cases hsplit
  exact hport

/-- A host without colons and a port are written with a colon between them. -/
theorem namesPort_append (hhost : ':' ∉ host.toList) (hport : port ≤ 65535) :
    NamesPort (host ++ ":" ++ toString port) host port :=
  ⟨Nat.toDigits 10 port, by simp, hhost, spellsPort_toDigits hport⟩

theorem port_ofTarget_le (target : String) : (Address.ofTarget target).port ≤ 65535 := by
  by_cases h : ∃ host port, NamesPort target host port
  · obtain ⟨host, port, hnames⟩ := h
    rw [ofTarget_of_namesPort hnames]
    obtain ⟨_, -, -, hport⟩ := hnames
    exact hport.1
  · simp only [not_exists] at h
    rw [ofTarget_of_not_namesPort h]
    exact Nat.le_of_ble_eq_true rfl

end Targets

/-! ## Deliveries -/

section Deliveries

open LabelPress.CommandLine

variable {m : Type → Type} [Monad m] {shell : Shell m} {target : String}
  {deliver : Address → String → m (Except String Unit)}

theorem deliverAll_congr {address : Address}
    (h : ∀ document, deliver address document = shell.deliver address document)
    (documents : List String) :
    deliverAll { shell with deliver } address documents = deliverAll shell address documents := by
  simp only [deliverAll, h]

theorem runCompile_congr
    (h : ∀ document,
      deliver (.ofTarget target) document = shell.deliver (.ofTarget target) document)
    {settings : CompileSettings} (hsend : settings.destination.send = some target) :
    runCompile { shell with deliver } settings = runCompile shell settings := by
  unfold runCompile
  simp only [hsend, deliverAll_congr h]
  rfl

theorem runBatch_congr
    (h : ∀ document,
      deliver (.ofTarget target) document = shell.deliver (.ofTarget target) document)
    {settings : BatchSettings} (hsend : settings.destination.send = some target) :
    runBatch { shell with deliver } settings = runBatch shell settings := by
  unfold runBatch
  simp only [hsend, deliverAll_congr h]
  rfl

/-- How a target is read. -/
structure ReadsTarget (target : String) : Prop where
  /-- A port behind the only colon is taken off the host. -/
  namesPort : ∀ host port, NamesPort target host port → Address.ofTarget target = ⟨host, port⟩
  /-- Any other target is the host as it stands, at the port of printers: -/
  allHost : (∀ host port, ¬ NamesPort target host port) → Address.ofTarget target = ⟨target, 9100⟩
  /-- one without a colon, -/
  noColon : ':' ∉ target.toList → Address.ofTarget target = ⟨target, 9100⟩
  /-- one with more than one, -/
  colons : 1 < target.toList.count ':' → Address.ofTarget target = ⟨target, 9100⟩
  /-- and one with a text behind the colon that is no port. -/
  noPort : ∀ before text, target.toList = before ++ ':' :: text →
    (∀ port, ¬ SpellsPort text port) → Address.ofTarget target = ⟨target, 9100⟩
  port_le : (Address.ofTarget target).port ≤ 65535
  /-- As a host, the target survives if it has no colon. -/
  written : ':' ∉ target.toList → ∀ port ≤ 65535,
    Address.ofTarget (target ++ ":" ++ toString port) = ⟨target, port⟩
  /-- What a command sends to the target is delivered to this address alone: it does not matter what
  becomes of documents at others. -/
  delivered : ∀ (m : Type → Type) [Monad m] (shell : CommandLine.Shell m)
    (deliver : Address → String → m (Except String Unit)),
    (∀ document,
      deliver (.ofTarget target) document = shell.deliver (.ofTarget target) document) →
    (∀ settings, settings.destination.send = some target →
      CommandLine.runCompile { shell with deliver } settings =
        CommandLine.runCompile shell settings) ∧
    ∀ settings, settings.destination.send = some target →
      CommandLine.runBatch { shell with deliver } settings = CommandLine.runBatch shell settings

/-- **A target is a host and a port if a number of sixteen bits stands behind its only colon**, and
otherwise a host. -/
theorem readsTarget (target : String) : ReadsTarget target := by
  constructor
  case namesPort => exact fun host port => ofTarget_of_namesPort
  case allHost => exact ofTarget_of_not_namesPort
  case noColon =>
    intro hcolon
    refine ofTarget_of_not_namesPort fun host port h => ?_
    rw [← List.count_eq_zero, h.count_colon] at hcolon
    cases hcolon
  case colons =>
    intro hcolons
    refine ofTarget_of_not_namesPort fun host port h => ?_
    rw [h.count_colon] at hcolons
    exact Nat.lt_irrefl 1 hcolons
  case noPort =>
    intro before text htarget hnone
    exact ofTarget_of_not_namesPort fun host port h => hnone port (h.spellsPort htarget)
  case port_le => exact port_ofTarget_le target
  case written =>
    intro hcolon port hport
    exact ofTarget_of_namesPort (namesPort_append hcolon hport)
  case delivered =>
    intro m _ shell deliver h
    exact ⟨fun settings => runCompile_congr h, fun settings => runBatch_congr h⟩

example : Address.ofTarget "printer:+00631" = ⟨"printer", 631⟩ ∧
    Address.ofTarget "fe80::1" = ⟨"fe80::1", 9100⟩ := by
  decide

end Deliveries

end LabelPress
