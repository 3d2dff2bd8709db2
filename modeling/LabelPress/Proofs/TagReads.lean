import LabelPress.Proofs.Emission
import LabelPress.Template.Compile
import Mathlib.Data.List.Forall2

/-!
# Fields of a tag and their readings

A field that prints a bank of the tag has a number in place of data, and the printer fills the
number when it reads the bank. So every such field needs a reading of its own next to it, and the
label has to enable tags.

* `TagBlock`: what one element becomes, as far as the tag is concerned (`tagBlock_commands`).
* `Adjacent`: every field with a number has its reading beside it. It holds of a block and of lists
  put together.
* `compileProgram_tagReads`: **fields and readings of a program are paired**, and tags are enabled
  exactly if there is something to read.
-/

namespace LabelPress

open LabelPress.Zpl

/-! ## Commands that concern the tag -/

namespace Zpl.Command

def isRead : Command → Bool
  | rfidRead _ => true
  | _ => false

/-- The field number that a field prints. -/
def number? (c : Command) : Option UInt8 :=
  match c.data? with
  | some (.fieldNumber number) => some number
  | _ => none

/-- Whether the command belongs to the label and not to an element. -/
def isFrame : Command → Bool
  | startFormat | endFormat | printWidth _ | labelLength _ | labelHome .. | rfidSetup _ => true
  | _ => false

theorem number?_of_isFigure {c : Command} (h : c.isFigure = true) : c.number? = none := by
  simp [number?, data?_of_isFigure h]

theorem isRead_of_data? {c : Command} {data : FieldData} (h : c.data? = some data) :
    c.isRead = false := by
  cases c <;> simp_all [data?, isRead]

theorem isRead_of_number? {c : Command} {n : UInt8} (h : c.number? = some n) :
    c.isRead = false := by
  unfold number? at h
  split at h
  · rename_i hd
    exact isRead_of_data? hd
  · cases h

theorem isRead_of_isFigure {c : Command} (h : c.isFigure = true) : c.isRead = false := by
  cases c <;> simp_all [isFigure, isRead]

theorem isFrame_of_data? {c : Command} {data : FieldData} (h : c.data? = some data) :
    c.isFrame = false := by
  cases c <;> simp_all [data?, isFrame]

theorem isFrame_of_isFigure {c : Command} (h : c.isFigure = true) : c.isFrame = false := by
  cases c <;> simp_all [isFigure, isFrame]

theorem number?_of_isFrame {c : Command} (h : c.isFrame = true) : c.number? = none := by
  cases c <;> simp_all [isFrame, number?, data?]

theorem isRead_of_isFrame {c : Command} (h : c.isFrame = true) : c.isRead = false := by
  cases c <;> simp_all [isFrame, isRead]

end Zpl.Command

/-! ## The commands of one element -/

/-- Whether the element is bound to a bank of the tag. -/
def Element.isTagBound (e : Element) : Bool := e.dataField?.any (· ∈ reservedNames)

theorem Element.isTagBound_iff {e : Element} :
    e.isTagBound = true ↔ ∃ bank : MemoryBank, e.dataField? = some bank.name := by
  simp only [isTagBound, Option.any_eq_true, decide_eq_true_eq, mem_reservedNames]
  constructor
  · rintro ⟨name, h, bank, rfl⟩
    exact ⟨bank, h⟩
  · rintro ⟨bank, h⟩
    exact ⟨_, h, bank, rfl⟩

/-- The name in the field is that of a bank. -/
theorem Element.isTagBound_iff_binds {e : Element} :
    e.isTagBound = true ↔ ∃ name ∈ reservedNames, e.Binds name := by
  simp only [isTagBound, Option.any_eq_true, decide_eq_true_eq, dataField?_eq_some_iff]
  exact exists_congr fun name => and_comm

theorem Element.readsTag_eq (e : Element) : e.readsTag = e.isTagBound := by
  rw [Bool.eq_iff_iff, isTagBound_iff]
  unfold readsTag
  cases h : e.binding with
  | rfid bank => simpa using ⟨bank, binding_eq_rfid_iff.1 h⟩
  | unbound => simp [← binding_eq_rfid_iff, h]
  | fillable name => simp [← binding_eq_rfid_iff, h]

/-- The commands of an element, as far as the tag is concerned. For an element bound to a bank they
are a field with the number of the bank and the reading of the bank, after the field or, for a
barcode, before it. For any other element they do not concern the tag. -/
inductive TagBlock (scheme : RfidScheme) (e : Element) : List Command → Prop where
  | bound (bank : MemoryBank) (field : Command) (hb : e.dataField? = some bank.name)
      (hn : field.number? = some (scheme.access bank).fieldNumber) :
      TagBlock scheme e (withReads e.isBarcode field [.rfidRead (scheme.access bank)])
  | free (block : List Command) (hb : e.isTagBound = false)
      (hn : ∀ c ∈ block, c.number? = none ∧ c.isRead = false) : TagBlock scheme e block

/-- **Every element becomes such a block.** -/
theorem tagBlock_commands (e : Element) (dpi : Nat) (options : CompileOptions) :
    TagBlock options.scheme e (e.commands dpi options) := by
  cases hf : e.field? dpi with
  | none =>
    refine .free _ (by simp [Element.isTagBound, Element.dataField?_of_no_field hf]) fun c hc => ?_
    have hfig := Element.commands_of_no_field hf c hc
    exact ⟨Command.number?_of_isFigure hfig, Command.isRead_of_isFigure hfig⟩
  | some field =>
    rw [Element.commands_of_field hf]
    have hfield := fun data => Element.data?_of_field? hf data
    have free : ∀ data, (∀ n, data ≠ .fieldNumber n) → e.isTagBound = false →
        TagBlock options.scheme e (withReads e.isBarcode (field data) []) := by
      intro data hdata hb
      refine .free _ hb fun c hc => ?_
      obtain rfl : c = field data := by
        unfold withReads at hc
        split at hc <;> simpa using hc
      refine ⟨?_, Command.isRead_of_data? (hfield data)⟩
      unfold Command.number?
      rw [hfield data]
      cases data with
      | fieldNumber n => exact absurd rfl (hdata n)
      | literal text => rfl
      | placeholder name => rfl
    have hreads := e.readsTag_eq
    unfold Element.readsTag at hreads
    cases hb : e.binding with
    | rfid bank =>
      rw [Element.source_of_rfid hb]
      exact .bound bank _ (Element.binding_eq_rfid_iff.1 hb) (by simp [Command.number?, hfield])
    | fillable name =>
      rw [hb] at hreads
      rw [Element.source_of_fillable hb]
      exact free _ (by intro n; dsimp only; split <;> simp) hreads.symm
    | unbound =>
      rw [hb] at hreads
      rw [Element.source_of_unbound hb]
      exact free _ (by simp) hreads.symm

theorem isFrame_of_mem_commands {e : Element} {dpi : Nat} {options : CompileOptions} {c : Command}
    (h : c ∈ e.commands dpi options) : c.isFrame = false := by
  cases hf : e.field? dpi with
  | none => exact Command.isFrame_of_isFigure (Element.commands_of_no_field hf c h)
  | some field =>
    rcases Element.mem_commands_of_field hf h with rfl | ⟨access, -, rfl⟩
    · exact Command.isFrame_of_data? (Element.data?_of_field? hf _)
    · rfl

namespace TagBlock

variable {scheme : RfidScheme} {e : Element} {block : List Command}

theorem countP_isRead (h : TagBlock scheme e block) :
    block.countP Command.isRead = if e.isTagBound then 1 else 0 := by
  cases h with
  | bound bank field hb hn =>
    have hfield := Command.isRead_of_number? hn
    have hread : Command.isRead (.rfidRead (scheme.access bank)) = true := rfl
    rw [if_pos (Element.isTagBound_iff.2 ⟨bank, hb⟩)]
    unfold withReads
    split <;> simp [hfield, hread]
  | free _ hb hn =>
    rw [hb, List.countP_eq_zero.2 fun c hc => by simp [hn c hc]]
    rfl

theorem countP_number? (h : TagBlock scheme e block) :
    block.countP (·.number?.isSome) = if e.isTagBound then 1 else 0 := by
  cases h with
  | bound bank field hb hn =>
    have hread : Command.number? (.rfidRead (scheme.access bank)) = none := rfl
    rw [if_pos (Element.isTagBound_iff.2 ⟨bank, hb⟩)]
    unfold withReads
    split <;> simp [hn, hread]
  | free _ hb hn =>
    rw [hb, List.countP_eq_zero.2 fun c hc => by simp [hn c hc]]
    rfl

end TagBlock

/-! ## Readings beside their fields -/

/-- Every field with a number belongs to one of the elements, its number is that of the bank of the
element, and the reading of the bank stands directly after the field, or before it for a barcode. -/
def Adjacent (scheme : RfidScheme) (es : List Element) (cs : List Command) : Prop :=
  ∀ before field after n, cs = before ++ field :: after → field.number? = some n →
    ∃ e ∈ es, ∃ bank : MemoryBank, e.dataField? = some bank.name ∧
      n = (scheme.access bank).fieldNumber ∧
      if e.isBarcode then before.getLast? = some (.rfidRead (scheme.access bank))
      else after.head? = some (.rfidRead (scheme.access bank))

namespace Adjacent

variable {scheme : RfidScheme} {es : List Element} {A B : List Command}

theorem of_no_number (h : ∀ c ∈ A, c.number? = none) : Adjacent scheme es A := by
  rintro before field after n rfl hn
  simp [h field (by simp)] at hn

theorem append (hA : Adjacent scheme es A) (hB : Adjacent scheme es B) :
    Adjacent scheme es (A ++ B) := by
  intro before field after n h hn
  rcases List.append_eq_append_iff.1 h with ⟨c, rfl, hc⟩ | ⟨c, rfl, hc⟩
  · obtain ⟨e, he, bank, hb, hnum, hread⟩ := hB c field after n hc hn
    refine ⟨e, he, bank, hb, hnum, ?_⟩
    split
    · rename_i hk
      rw [if_pos hk] at hread
      simp [List.getLast?_append, hread]
    · rename_i hk
      rwa [if_neg hk] at hread
  · cases c with
    | nil =>
      obtain ⟨e, he, bank, hb, hnum, hread⟩ := hB [] field after n hc.symm hn
      refine ⟨e, he, bank, hb, hnum, ?_⟩
      split
      · rename_i hk
        simp [hk] at hread
      · rename_i hk
        rwa [if_neg hk] at hread
    | cons d c =>
      obtain ⟨rfl, rfl⟩ := List.cons.inj hc
      obtain ⟨e, he, bank, hb, hnum, hread⟩ := hA before field c n rfl hn
      refine ⟨e, he, bank, hb, hnum, ?_⟩
      split
      · rename_i hk
        rwa [if_pos hk] at hread
      · rename_i hk
        rw [if_neg hk] at hread
        simp [List.head?_append, hread]

theorem flatMap {f : Element → List Command} {l : List Element}
    (h : ∀ e ∈ l, Adjacent scheme es (f e)) : Adjacent scheme es (l.flatMap f) := by
  induction l with
  | nil => exact of_no_number (by simp)
  | cons e l ih =>
    rw [List.forall_mem_cons] at h
    exact h.1.append (ih h.2)

theorem of_tagBlock {e : Element} (he : e ∈ es) (h : TagBlock scheme e A) :
    Adjacent scheme es A := by
  cases h with
  | free _ hb hn => exact of_no_number fun c hc => (hn c hc).1
  | bound bank field hb hn =>
    intro before field' after n h hn'
    have hread : Command.number? (.rfidRead (scheme.access bank)) = none := rfl
    unfold withReads at h
    split at h
    · rename_i hk
      have hcases : before = [.rfidRead (scheme.access bank)] ∧ field = field' := by
        match before with
        | [] =>
          obtain ⟨rfl, -⟩ := List.cons.inj h
          simp [hread] at hn'
        | [c] =>
          simp only [List.cons_append, List.nil_append, List.cons.injEq] at h
          exact ⟨by rw [h.1], h.2.1⟩
        | c :: d :: before => simp at h
      obtain ⟨rfl, rfl⟩ := hcases
      refine ⟨e, he, bank, hb, Option.some.inj (hn'.symm.trans hn), ?_⟩
      rw [if_pos hk]
      rfl
    · rename_i hk
      have hcases : after = [.rfidRead (scheme.access bank)] ∧ field = field' := by
        match before with
        | [] =>
          obtain ⟨rfl, rfl⟩ := List.cons.inj h
          exact ⟨rfl, rfl⟩
        | [c] =>
          simp only [List.cons_append, List.nil_append, List.cons.injEq] at h
          obtain ⟨-, rfl, -⟩ := h
          simp [hread] at hn'
        | c :: d :: before => simp at h
      obtain ⟨rfl, rfl⟩ := hcases
      refine ⟨e, he, bank, hb, Option.some.inj (hn'.symm.trans hn), ?_⟩
      rw [if_neg hk]
      rfl

end Adjacent

/-! ## The whole program -/

theorem countP_printOrder (q : Element → Bool) (es : List Element) :
    (printOrder es).countP q = es.countP fun e => e.frame.visible && q e := by
  rw [(printOrder_perm es).countP_eq, List.countP_filter]
  exact List.countP_congr fun e _ => by simp [and_comm]

theorem mem_tagSetup {options : CompileOptions} {es : List Element} {c : Command}
    (h : c ∈ tagSetup options es) : c = .rfidSetup options.scheme.tagType := by
  unfold tagSetup at h
  split at h
  · exact List.mem_singleton.1 h
  · simp at h

/-- Before the commands of the elements there is only the frame of the label. -/
theorem isFrame_of_mem_front {canvas : Canvas} {options : CompileOptions} {es : List Element}
    {c : Command} (h : c ∈ preamble canvas ++ tagSetup options es) : c.isFrame = true := by
  rcases List.mem_append.1 h with h | h
  · simp only [preamble, List.mem_cons, List.not_mem_nil, or_false] at h
    rcases h with rfl | rfl | rfl | rfl <;> rfl
  · rw [mem_tagSetup h]
    rfl

/-- Within the frame of the label stand the commands of one element after the other. -/
theorem exists_front (canvas : Canvas) (elements : List Element) (options : CompileOptions) :
    ∃ front, (∀ c ∈ front, c.isFrame = true) ∧ (compileProgram canvas elements options).commands =
      front ++ (printOrder elements).flatMap (·.commands canvas.dpi options) ++ [.endFormat] :=
  ⟨_, fun _ => isFrame_of_mem_front, rfl⟩

/-- No element opens or closes the label or enables tags. -/
theorem not_mem_flatMap_commands {dpi : Nat} {options : CompileOptions} {es : List Element}
    {c : Command} (hc : c.isFrame = true) : c ∉ es.flatMap (·.commands dpi options) := by
  intro h
  obtain ⟨e, -, h⟩ := List.mem_flatMap.1 h
  rw [isFrame_of_mem_commands h] at hc
  cases hc

/-- What is counted once for each of certain elements is counted as often as there are such. -/
theorem countP_flatMap_commands {p : Command → Bool} {q : Element → Bool} {dpi : Nat}
    {options : CompileOptions}
    (h : ∀ e : Element, (e.commands dpi options).countP p = if q e then 1 else 0)
    (es : List Element) : (es.flatMap (·.commands dpi options)).countP p = es.countP q := by
  induction es with
  | nil => rfl
  | cons e es ih =>
    rw [List.flatMap_cons, List.countP_append, h, ih, List.countP_cons, Nat.add_comm]

/-- The frame of the label does not count. -/
theorem countP_compileProgram {p : Command → Bool} {q : Element → Bool} {canvas : Canvas}
    {options : CompileOptions} (hframe : ∀ c : Command, c.isFrame = true → p c = false)
    (h : ∀ e : Element, (e.commands canvas.dpi options).countP p = if q e then 1 else 0)
    (elements : List Element) :
    (compileProgram canvas elements options).commands.countP p =
      elements.countP fun e => e.frame.visible && q e := by
  have hfront : (preamble canvas ++ tagSetup options (printOrder elements)).countP p = 0 :=
    List.countP_eq_zero.2 fun c hc => by simp [hframe c (isFrame_of_mem_front hc)]
  have hend : p .endFormat = false := hframe _ rfl
  dsimp only [compileProgram]
  rw [List.countP_append, List.countP_append, hfront, countP_flatMap_commands h,
    countP_printOrder]
  simp [hend]

theorem any_readsTag_printOrder {elements : List Element} :
    (printOrder elements).any Element.readsTag = true ↔
      ∃ e ∈ elements, e.frame.visible = true ∧ e.isTagBound = true := by
  simp only [List.any_eq_true, mem_printOrder, Element.readsTag_eq, and_assoc]

/-- Fields and readings of a program are paired, and tags are enabled for them. -/
structure TagReads (elements : List Element) (scheme : RfidScheme) (cs : List Command) : Prop where
  /-- Bound to a bank is an element whose field has the name of one. -/
  bound : ∀ e : Element, e.isTagBound = true ↔ ∃ name ∈ reservedNames, e.Binds name
  /-- If a visible element is bound to a bank, tags are enabled once, right after the home
  position. -/
  setup : (∃ e ∈ elements, e.frame.visible = true ∧ e.isTagBound = true) →
    ∃ front rest, cs = front ++ .labelHome 0 0 :: .rfidSetup scheme.tagType :: rest ∧
      ∀ n, .rfidSetup n ∉ front ∧ .rfidSetup n ∉ rest
  /-- Otherwise tags are not enabled. -/
  no_setup : (¬ ∃ e ∈ elements, e.frame.visible = true ∧ e.isTagBound = true) →
    ∀ n, .rfidSetup n ∉ cs
  /-- There are as many readings as visible elements that are bound to a bank. -/
  reads : cs.countP Command.isRead = elements.countP fun e => e.frame.visible && e.isTagBound
  /-- There are as many fields with a number. -/
  numbers : cs.countP (·.number?.isSome) =
    elements.countP fun e => e.frame.visible && e.isTagBound
  /-- Between the frame of the label, each element has commands of its own: if it is bound to a
  bank, one field with the number of the bank and the reading of the bank. -/
  blocks : ∃ front blocks, cs = front ++ blocks.flatten ++ [.endFormat] ∧
    (∀ c ∈ front, c.isFrame = true) ∧
      List.Forall₂ (TagBlock scheme) (printOrder elements) blocks
  /-- So every field with a number has its reading beside it. -/
  adjacent : Adjacent scheme (printOrder elements) cs
  /-- The label is opened by the first command only. -/
  opened : ∃ rest, cs = .startFormat :: rest ∧ .startFormat ∉ rest
  /-- The label is closed by the last command only. -/
  closed : ∃ front, cs = front ++ [.endFormat] ∧ .endFormat ∉ front

/-- **Fields and readings are paired**, whatever the canvas, the elements and the options. -/
theorem compileProgram_tagReads (canvas : Canvas) (elements : List Element)
    (options : CompileOptions) :
    TagReads elements options.scheme (compileProgram canvas elements options).commands := by
  have hblock := fun e => tagBlock_commands e canvas.dpi options
  have hmiddle : ∀ c : Command, c.isFrame = true →
      c ∉ (printOrder elements).flatMap (·.commands canvas.dpi options) :=
    fun _ => not_mem_flatMap_commands
  constructor
  case bound => exact fun e => Element.isTagBound_iff_binds
  case setup =>
    intro h
    refine ⟨[.startFormat, .printWidth canvas.widthDots, .labelLength canvas.heightDots],
      (printOrder elements).flatMap (·.commands canvas.dpi options) ++ [.endFormat], ?_, ?_⟩
    · simp [compileProgram, preamble, tagSetup, any_readsTag_printOrder.2 h]
    · intro n
      have := hmiddle (.rfidSetup n) rfl
      simpa using this
  case no_setup =>
    intro h n
    have hnone : (printOrder elements).any Element.readsTag = false := by
      rwa [← Bool.not_eq_true, any_readsTag_printOrder]
    have := hmiddle (.rfidSetup n) rfl
    simpa [compileProgram, preamble, tagSetup, hnone] using this
  case reads =>
    exact countP_compileProgram (fun _ => Command.isRead_of_isFrame)
      (fun e => (hblock e).countP_isRead) elements
  case numbers =>
    exact countP_compileProgram (fun c h => by rw [Command.number?_of_isFrame h]; rfl)
      (fun e => (hblock e).countP_number?) elements
  case blocks =>
    refine ⟨preamble canvas ++ tagSetup options (printOrder elements),
      (printOrder elements).map (·.commands canvas.dpi options), ?_,
      fun _ => isFrame_of_mem_front, ?_⟩
    · rw [← List.flatMap_def]
      rfl
    · rw [List.forall₂_map_right_iff, List.forall₂_same]
      exact fun e _ => hblock e
  case adjacent =>
    refine .append (.append ?_ ?_) ?_
    · exact .of_no_number fun _ hc => Command.number?_of_isFrame (isFrame_of_mem_front hc)
    · exact .flatMap fun e he => .of_tagBlock he (hblock e)
    · exact .of_no_number fun c hc => by rw [List.mem_singleton.1 hc]; rfl
  case opened =>
    refine ⟨_, rfl, ?_⟩
    have hm := hmiddle .startFormat rfl
    have hs : Command.startFormat ∉ tagSetup options (printOrder elements) := fun h => by
      cases mem_tagSetup h
    simp_all
  case closed =>
    refine ⟨_, rfl, ?_⟩
    have hm := hmiddle .endFormat rfl
    have hs : Command.endFormat ∉ tagSetup options (printOrder elements) := fun h => by
      cases mem_tagSetup h
    simp_all [preamble]

end LabelPress
