import LabelPress.Proofs.Filling
import LabelPress.Proofs.TagReads

/-!
# Placeholders or literal content

A template compiles to placeholders, to be filled row by row, or to the content of its elements.
Both programs have the same commands in the same places: they differ only in the data of fields that
are bound to a variable, and there the literal program prints what the element shows by itself.

* `StandsIn`: what an element of a kind shows where nothing is filled in, which is never empty
  (`StandsIn.ne_empty`).
* `Unbound`: a command of the literal program beside the one with a placeholder.
* `unbound_commands`: the commands of one element in both programs.
* `modesAgree`: **both programs agree command by command**.
-/

namespace LabelPress

open LabelPress.Text LabelPress.Zpl

/-! ## Standing in -/

/-- What an element of a kind prints where nothing is filled in. -/
inductive StandsIn : ElementKind → String → Prop where
  | text {t : TextElement} (h : trim t.content ≠ "") : StandsIn (.text t) (trim t.content)
  | blankText {t : TextElement} (h : trim t.content = "") : StandsIn (.text t) " "
  | sample {v : VariableElement} (h : v.sampleValue ≠ "") : StandsIn (.slot v) v.sampleValue
  | noSample {v : VariableElement} (h : v.sampleValue = "") : StandsIn (.slot v) " "
  | barcode {b : BarcodeElement} (h : trim b.content ≠ "") : StandsIn (.barcode b) (trim b.content)
  | blankBarcode {b : BarcodeElement} (h : trim b.content = "") : StandsIn (.barcode b) "0"

theorem StandsIn.ne_empty {kind : ElementKind} {s : String} (h : StandsIn kind s) : s ≠ "" := by
  cases h with
  | text h => exact h
  | sample h => exact h
  | barcode h => exact h
  | blankText h => decide
  | noSample h => decide
  | blankBarcode h => decide

theorem orElse_of_ne {replacement text : String} (h : text ≠ "") :
    orElse replacement text = text := if_neg h

/-- The fallback of an element with a field is what stands in for it. -/
theorem Element.standsIn_fallback {e : Element} {dpi : Nat} {field : FieldData → Command}
    (h : e.field? dpi = some field) : StandsIn e.kind e.fallback := by
  unfold field? at h
  unfold fallback
  split at h
  · rename_i t hk
    rw [hk]
    by_cases ht : trim t.content = ""
    · simpa [TextElement.fallback, orElse, ht] using StandsIn.blankText ht
    · simpa [TextElement.fallback, orElse_of_ne ht] using StandsIn.text ht
  · rename_i v hk
    rw [hk]
    by_cases hv : v.sampleValue = ""
    · simpa [VariableElement.fallback, orElse, hv] using StandsIn.noSample hv
    · simpa [VariableElement.fallback, orElse_of_ne hv] using StandsIn.sample hv
  · rename_i b hk
    rw [hk]
    by_cases hb : trim b.content = ""
    · simpa [BarcodeElement.fallback, orElse, hb] using StandsIn.blankBarcode hb
    · simpa [BarcodeElement.fallback, orElse_of_ne hb] using StandsIn.barcode hb
  · cases h

/-! ## The commands of one element -/

/-- The command with other data in its field; a command without a field stays. -/
def Zpl.Command.withData (data : FieldData) : Command → Command
  | .text x y font _ => .text x y font data
  | .linearBarcode x y code _ => .linearBarcode x y code data
  | .qrCode x y magnification _ => .qrCode x y magnification data
  | c => c

theorem Element.withData_of_field? {e : Element} {dpi : Nat} {field : FieldData → Command}
    (h : e.field? dpi = some field) (data data' : FieldData) :
    (field data).withData data' = field data' := by
  unfold field? at h
  split at h
  · cases h; rfl
  · cases h; rfl
  · cases h
    dsimp only [BarcodeElement.command]
    split <;> rfl
  · cases h

/-- `d` is the command of the literal program in place of `c`, both of element `e`: the same, unless
`c` has the placeholder of the variable that `e` is bound to. Then it is `c` with what stands in for
`e`. -/
inductive Unbound (e : Element) : Command → Command → Prop where
  | same {c : Command} (h : c.placeholder? = none) : Unbound e c c
  | standIn {c : Command} {name s : String} (hc : c.placeholder? = some name)
      (hb : e.binding = .fillable name) (hs : StandsIn e.kind s) :
      Unbound e c (c.withData (.literal s))

theorem Element.placeholder?_of_field? {e : Element} {dpi : Nat} {field : FieldData → Command}
    (h : e.field? dpi = some field) (data : FieldData) :
    (field data).placeholder? = data.placeholder? := by
  rw [Command.placeholder?, data?_of_field? h, Option.bind_some]

section Commands

variable {e : Element} {dpi : Nat} {options : CompileOptions}

theorem Unbound.refl_of_forall {cs : List Command} (h : ∀ c ∈ cs, c.placeholder? = none) :
    List.Forall₂ (Unbound e) cs cs := by
  rw [List.forall₂_same]
  exact fun c hc => .same (h c hc)

/-- Without a field an element becomes the same commands in both programs. -/
theorem Element.commands_eq_of_no_field (h : e.field? dpi = none) (placeholders : Bool) :
    e.commands dpi { options with placeholders } = e.commands dpi options := by
  unfold commands
  unfold field? at h
  cases hk : e.kind with
  | text t => simp [hk] at h
  | slot v => simp [hk] at h
  | barcode b => simp [hk] at h
  | rectangle r => rfl
  | ellipse s => rfl
  | line l => rfl
  | image i => rfl
  | unknown typeName => rfl

/-- The same bank is read in both programs. -/
theorem Element.read_source_eq (e : Element) (options : CompileOptions) (placeholders : Bool) :
    (e.source { options with placeholders }).read = (e.source options).read := by
  cases hb : e.binding with
  | rfid bank => rw [source_of_rfid hb, source_of_rfid hb]
  | fillable name => rw [source_of_fillable hb, source_of_fillable hb]
  | unbound => rw [source_of_unbound hb, source_of_unbound hb]

/-- The field of an element in both programs. -/
theorem Element.unbound_field {field : FieldData → Command} (h : e.field? dpi = some field)
    (options : CompileOptions) :
    Unbound e (field (e.source { options with placeholders := true }).data)
      (field (e.source { options with placeholders := false }).data) := by
  cases hb : e.binding with
  | rfid bank =>
    rw [source_of_rfid hb, source_of_rfid hb]
    exact .same (placeholder?_of_field? h _)
  | unbound =>
    rw [source_of_unbound hb, source_of_unbound hb]
    exact .same (placeholder?_of_field? h _)
  | fillable name =>
    have hstand := Unbound.standIn (placeholder?_of_field? h (.placeholder name)) hb
      (standsIn_fallback h)
    rw [withData_of_field? h] at hstand
    rw [source_of_fillable hb, source_of_fillable hb]
    exact hstand

/-- The commands of an element in both programs. -/
theorem unbound_commands (e : Element) (dpi : Nat) (options : CompileOptions) :
    List.Forall₂ (Unbound e) (e.commands dpi { options with placeholders := true })
      (e.commands dpi { options with placeholders := false }) := by
  cases hf : e.field? dpi with
  | none =>
    rw [e.commands_eq_of_no_field hf true, e.commands_eq_of_no_field hf false]
    refine Unbound.refl_of_forall fun c hc => ?_
    rw [Command.placeholder?, Command.data?_of_isFigure (Element.commands_of_no_field hf c hc)]
    rfl
  | some field =>
    have hfield : Unbound e _ _ := Element.unbound_field hf options
    have hreads : List.Forall₂ (Unbound e) ((e.source options).read.toList.map Command.rfidRead)
        ((e.source options).read.toList.map Command.rfidRead) := by
      refine Unbound.refl_of_forall fun c hc => ?_
      obtain ⟨access, -, rfl⟩ := List.mem_map.1 hc
      rfl
    rw [Element.commands_of_field hf, Element.commands_of_field hf,
      e.read_source_eq options true, e.read_source_eq options false]
    unfold withReads
    split
    · exact List.rel_append hreads (.cons hfield .nil)
    · exact .cons hfield hreads

end Commands

/-! ## Whole programs -/

theorem Zpl.Command.placeholder?_eq_some_iff {c : Command} {name : String} :
    c.placeholder? = some name ↔ c.data? = some (.placeholder name) := by
  rw [placeholder?, Option.bind_eq_some_iff]
  constructor
  · rintro ⟨data, hc, hdata⟩
    cases data with
    | placeholder name' => rw [hc, Option.some.inj hdata]
    | literal text => cases hdata
    | fieldNumber number => cases hdata
  · intro h
    exact ⟨_, h, rfl⟩

/-- `d` is the command of the literal program in place of `c`: the same, unless `c` has a
placeholder. Then one of the elements is bound to its name, and `d` is `c` with what stands in for
that element. -/
def Counterpart (es : List Element) (c d : Command) : Prop :=
  ((∀ name, c.data? ≠ some (.placeholder name)) → d = c) ∧
    ∀ name, c.data? = some (.placeholder name) →
      ∃ e ∈ es, e.binding = .fillable name ∧
        ∃ s, StandsIn e.kind s ∧ s ≠ "" ∧ d = c.withData (.literal s)

theorem Counterpart.of_unbound {es : List Element} {e : Element} {c d : Command} (he : e ∈ es)
    (h : Unbound e c d) : Counterpart es c d := by
  cases h with
  | same hnone =>
    refine ⟨fun _ => rfl, fun name hname => ?_⟩
    rw [Command.placeholder?_eq_some_iff.2 hname] at hnone
    cases hnone
  | @standIn name s hc hb hs =>
    have hdata := Command.placeholder?_eq_some_iff.1 hc
    refine ⟨fun hnone => absurd hdata (hnone name), fun name' hname' => ?_⟩
    rw [hdata] at hname'
    cases hname'
    exact ⟨e, he, hb, s, hs, hs.ne_empty, rfl⟩

theorem Counterpart.of_isFrame {es : List Element} {c : Command} (h : c.isFrame = true) :
    Counterpart es c c := by
  refine ⟨fun _ => rfl, fun name hname => ?_⟩
  rw [Command.isFrame_of_data? hname] at h
  cases h

/-- Commands of the frame of a label are their own counterparts. -/
theorem Counterpart.forall₂_frame {es : List Element} {cs : List Command}
    (h : ∀ c ∈ cs, c.isFrame = true) : List.Forall₂ (Counterpart es) cs cs := by
  rw [List.forall₂_same]
  exact fun c hc => .of_isFrame (h c hc)

/-- Elements whose commands agree make programs that agree. -/
theorem Counterpart.forall₂_flatMap {es l : List Element} {f g : Element → List Command}
    (hl : ∀ e ∈ l, e ∈ es) (h : ∀ e ∈ l, List.Forall₂ (Unbound e) (f e) (g e)) :
    List.Forall₂ (Counterpart es) (l.flatMap f) (l.flatMap g) := by
  induction l with
  | nil => exact .nil
  | cons e l ih =>
    rw [List.forall_mem_cons] at hl h
    exact List.rel_append (h.1.imp fun _ _ => .of_unbound hl.1) (ih hl.2 h.2)

/-- The program with placeholders and the literal program agree command by command. -/
structure ModesAgree (canvas : Canvas) (elements : List Element) (options : CompileOptions)
    (filled literal : List Command) : Prop where
  length_eq : filled.length = literal.length
  at_index : ∀ (i : Nat) (c d : Command), filled[i]? = some c → literal[i]? = some d →
    Counterpart (printOrder elements) c d
  /-- The element that stands in is the one whose command it is: within the frame of the label,
  which is the same, both programs have the commands of one element after the other. -/
  blocks : ∃ front, (∀ c ∈ front, c.isFrame = true) ∧
    filled = front ++ (printOrder elements).flatMap
      (·.commands canvas.dpi { options with placeholders := true }) ++ [.endFormat] ∧
    literal = front ++ (printOrder elements).flatMap
      (·.commands canvas.dpi { options with placeholders := false }) ++ [.endFormat] ∧
    ∀ e ∈ printOrder elements,
      List.Forall₂ (Unbound e) (e.commands canvas.dpi { options with placeholders := true })
        (e.commands canvas.dpi { options with placeholders := false })

/-- **Placeholders and literal content make the same program** but for the data of fields that are
bound to a variable. -/
theorem modesAgree (canvas : Canvas) (elements : List Element) (options : CompileOptions) :
    ModesAgree canvas elements options
      (compileProgram canvas elements { options with placeholders := true }).commands
      (compileProgram canvas elements { options with placeholders := false }).commands := by
  have hfront : ∀ c ∈ preamble canvas ++ tagSetup options (printOrder elements),
      c.isFrame = true := fun _ => isFrame_of_mem_front
  have hblocks := fun e (_ : e ∈ printOrder elements) => unbound_commands e canvas.dpi options
  have hend : ∀ c ∈ [Command.endFormat], c.isFrame = true := fun c hc => by
    rw [List.mem_singleton.1 hc]
    rfl
  have hagree : List.Forall₂ (Counterpart (printOrder elements))
      (compileProgram canvas elements { options with placeholders := true }).commands
      (compileProgram canvas elements { options with placeholders := false }).commands :=
    List.rel_append
      (List.rel_append (Counterpart.forall₂_frame hfront)
        (Counterpart.forall₂_flatMap (fun _ he => he) hblocks))
      (Counterpart.forall₂_frame hend)
  refine ⟨hagree.length_eq, fun i c d hc hd => ?_, ⟨_, hfront, rfl, rfl, hblocks⟩⟩
  obtain ⟨hi, rfl⟩ := List.getElem?_eq_some_iff.1 hc
  obtain ⟨hi', rfl⟩ := List.getElem?_eq_some_iff.1 hd
  exact List.forall₂_iff_get.1 hagree |>.2 i hi hi'

end LabelPress
