import LabelPress.Proofs.Modes

/-!
# Parameters within the limits of the printer

Sizes come from a designer in millimetres and may be anything, also negative, infinite or no number.
Each emitter brings what it makes of them within the limits of its command. This file has one bound
for each such parameter, then one lemma for each kind of element, then the whole program.

* `Command.Accepted`: the limits, command by command.
* `one_le_borderDots`, `one_le_qrMagnification`, `cornerRounding_nonneg` and so on: the bounds of one
  parameter.
* `Element.hasText_source`: the data of a field is never empty.
* `Element.accepted_of_mem_commands`: the commands of one element.
* `ElementKind.Yields`: how many commands an element of a kind becomes.
* `withinLimits`: **every command of a program is within the limits**, and each visible element has
  the commands of its kind.
-/

namespace LabelPress

open LabelPress.Zpl

/-! ## Limits -/

/-- There is something to print: a text or the name of a variable is not empty. -/
def Zpl.FieldData.HasText : FieldData → Prop
  | .literal text => text ≠ ""
  | .placeholder name => name ≠ ""
  | .fieldNumber _ => True

/-- What the printer accepts as the parameters of a command. -/
def Zpl.Command.Accepted : Command → Prop
  | text _ _ font data => 10 ≤ font.height ∧ data.HasText
  | linearBarcode _ _ code data => 20 ≤ code.height ∧ data.HasText
  | qrCode _ _ magnification data => (1 ≤ magnification ∧ magnification ≤ 10) ∧ data.HasText
  | box _ _ _ _ thickness rounding => 1 ≤ thickness ∧ 0 ≤ rounding ∧ rounding ≤ 8
  | ellipse _ _ _ _ thickness => 1 ≤ thickness
  | diagonal _ _ width height thickness _ => (2 ≤ width ∧ 2 ≤ height) ∧ 1 ≤ thickness
  | startFormat | endFormat | printWidth _ | labelLength _ | labelHome .. | rfidSetup _
  | graphicField .. | rfidRead _ | rfidWrite .. | comment _ => True

/-! ## Bounds of a parameter -/

theorem one_le_strokeDots (mm : Float) (dpi : Nat) : 1 ≤ strokeDots mm dpi :=
  Int.le_max_left _ _

theorem one_le_borderDots (fill : Option String) (strokeWidth : Float) (p : Placement) (dpi : Nat) :
    1 ≤ borderDots fill strokeWidth p dpi := by
  unfold borderDots
  split
  · exact Int.le_max_left _ _
  · exact one_le_strokeDots strokeWidth dpi

theorem Zpl.minBarHeight_le_barHeight (boxHeight : Int) : minBarHeight ≤ barHeight boxHeight :=
  Int.le_max_right _ _

theorem Zpl.one_le_qrMagnification (width height : Int) : 1 ≤ qrMagnification width height :=
  Int.le_max_left _ _

theorem Zpl.qrMagnification_le (width height : Int) :
    qrMagnification width height ≤ maxQrMagnification :=
  Int.max_le.2 ⟨by decide, Int.min_le_left _ _⟩

theorem Zpl.cornerRounding_nonneg (radius width height : Int) :
    0 ≤ cornerRounding radius width height := by
  unfold cornerRounding
  extract_lets side
  split
  · exact Int.le_refl 0
  · rename_i h
    obtain ⟨hradius, hside⟩ : 0 < radius ∧ 0 < side := by omega
    refine Int.le_min.2 ⟨by decide, Int.ediv_nonneg ?_ (by omega)⟩
    simp only [maxCornerRounding]
    omega

theorem Zpl.cornerRounding_le (radius width height : Int) :
    cornerRounding radius width height ≤ maxCornerRounding := by
  unfold cornerRounding
  extract_lets side
  split
  · decide
  · exact Int.min_le_left _ _

/-! ## Fields -/

namespace Element

variable {e : Element} {dpi : Nat} {options : CompileOptions} {field : FieldData → Command}

/-- The data of a field is never empty: bound names are not, and an empty content has a
replacement. -/
theorem hasText_source (h : e.field? dpi = some field) : (e.source options).data.HasText := by
  have hfallback : e.fallback ≠ "" := (standsIn_fallback h).ne_empty
  cases hb : e.binding with
  | rfid bank =>
    rw [source_of_rfid hb]
    trivial
  | unbound =>
    rw [source_of_unbound hb]
    exact hfallback
  | fillable name =>
    have hname : name ≠ "" := (dataField?_spec (binding_eq_fillable_iff.1 hb).1).1
    rw [source_of_fillable hb]
    dsimp only
    split
    · exact hname
    · exact hfallback

theorem accepted_field (h : e.field? dpi = some field) {data : FieldData} (hdata : data.HasText) :
    (field data).Accepted := by
  unfold field? at h
  split at h
  · cases h
    exact ⟨minFontHeight_le_fontHeightDots _ _, hdata⟩
  · cases h
    exact ⟨minFontHeight_le_fontHeightDots _ _, hdata⟩
  · cases h
    dsimp only [BarcodeElement.command]
    split
    · exact ⟨⟨one_le_qrMagnification _ _, qrMagnification_le _ _⟩, hdata⟩
    · exact ⟨minBarHeight_le_barHeight _, hdata⟩
  · cases h

end Element

/-! ## Figures -/

theorem RectangleElement.accepted_command (r : RectangleElement) (p : Placement) (dpi : Nat) :
    (r.command p dpi).Accepted :=
  ⟨one_le_borderDots _ _ _ _, cornerRounding_nonneg _ _ _, cornerRounding_le _ _ _⟩

theorem EllipseElement.accepted_command (s : EllipseElement) (p : Placement) (dpi : Nat) :
    (s.command p dpi).Accepted :=
  one_le_borderDots _ _ _ _

/-- What a line can become: a box without rounding or a diagonal that two dots fit in, each way. -/
inductive LineCommand : Command → Prop where
  | box {x y width height thickness : Int} (h : 1 ≤ thickness) :
      LineCommand (.box x y width height thickness 0)
  | diagonal {x y width height thickness : Int} {slope : Slope} (hwidth : 2 ≤ width)
      (hheight : 2 ≤ height) (h : 1 ≤ thickness) :
      LineCommand (.diagonal x y width height thickness slope)

theorem LineCommand.accepted {c : Command} (h : LineCommand c) : c.Accepted := by
  cases h with
  | box h => exact ⟨h, by decide, by decide⟩
  | diagonal hwidth hheight h => exact ⟨⟨hwidth, hheight⟩, h⟩

/-- A line becomes one such command, or none. -/
theorem LineElement.commands_spec (l : LineElement) (p : Placement) (dpi : Nat) :
    l.commands p dpi = [] ∨ ∃ c, l.commands p dpi = [c] ∧ LineCommand c := by
  have hthickness := one_le_strokeDots l.strokeWidth dpi
  unfold LineElement.commands
  extract_lets turned width height thickness
  split
  · exact .inl rfl
  · split
    · exact .inr ⟨_, rfl, .box hthickness⟩
    · rename_i hheight
      split
      · exact .inr ⟨_, rfl, .box hthickness⟩
      · -- what is no box has two dots each way
        rename_i hwidth
        exact .inr ⟨_, rfl, .diagonal (by omega) (by omega) hthickness⟩

theorem LineElement.length_commands_le (l : LineElement) (p : Placement) (dpi : Nat) :
    (l.commands p dpi).length ≤ 1 := by
  rcases l.commands_spec p dpi with hnone | ⟨c, hone, -⟩
  · simp [hnone]
  · simp [hone]

theorem LineElement.lineCommand_of_mem {l : LineElement} {p : Placement} {dpi : Nat} {c : Command}
    (h : c ∈ l.commands p dpi) : LineCommand c := by
  rcases l.commands_spec p dpi with hnone | ⟨d, hone, hd⟩
  · rw [hnone] at h
    cases h
  · rw [hone, List.mem_singleton] at h
    rw [h]
    exact hd

theorem ImageElement.accepted_command (i : ImageElement) (frame : Frame) (p : Placement)
    (options : CompileOptions) : (i.command frame p options).Accepted := by
  unfold ImageElement.command
  split
  · trivial
  · split
    · split <;> trivial
    · trivial

theorem Zpl.Command.accepted_of_isFrame {c : Command} (h : c.isFrame = true) : c.Accepted := by
  cases c with
  | startFormat | endFormat | printWidth _ | labelLength _ | labelHome | rfidSetup _ => trivial
  | _ => cases h

/-! ## The commands of one element -/

/-- The number of commands that an element of a kind becomes. -/
def ElementKind.Yields (n : Nat) : ElementKind → Prop
  | .rectangle _ | .ellipse _ | .image _ | .unknown _ => n = 1
  | .text _ | .slot _ | .barcode _ => n = 1 ∨ n = 2
  | .line _ => n ≤ 1

namespace Element

variable {e : Element} {dpi : Nat} {options : CompileOptions} {field : FieldData → Command}

theorem accepted_of_no_field (h : e.field? dpi = none) :
    ∀ c ∈ e.commands dpi options, c.Accepted := by
  unfold commands
  unfold field? at h
  cases hk : e.kind with
  | text t => simp [hk] at h
  | slot v => simp [hk] at h
  | barcode b => simp [hk] at h
  | rectangle r => exact List.forall_mem_singleton.2 (r.accepted_command _ _)
  | ellipse s => exact List.forall_mem_singleton.2 (s.accepted_command _ _)
  | line l => exact fun c hc => (LineElement.lineCommand_of_mem hc).accepted
  | image i => exact List.forall_mem_singleton.2 (i.accepted_command _ _ _)
  | unknown typeName => exact List.forall_mem_singleton.2 trivial

theorem accepted_of_mem_commands {c : Command} (hc : c ∈ e.commands dpi options) : c.Accepted := by
  cases hf : e.field? dpi with
  | none => exact accepted_of_no_field hf c hc
  | some field =>
    rcases mem_commands_of_field hf hc with rfl | ⟨access, -, rfl⟩
    · exact accepted_field hf (hasText_source hf)
    · trivial

/-- An element with a field becomes two commands if it reads the tag and one otherwise. -/
theorem length_commands_of_field (h : e.field? dpi = some field) :
    (e.commands dpi options).length = if e.readsTag then 2 else 1 := by
  have hlength : ∀ (isBarcode : Bool) (c : Command) (reads : List Command),
      (withReads isBarcode c reads).length = reads.length + 1 := by
    intro isBarcode c reads
    cases isBarcode <;> simp [withReads]
  rw [commands_of_field h, hlength, readsTag]
  cases hb : e.binding with
  | rfid bank => rw [source_of_rfid hb]; rfl
  | fillable name => rw [source_of_fillable hb]; rfl
  | unbound => rw [source_of_unbound hb]; rfl

/-- **The number of commands of an element** is one that its kind allows. -/
theorem yields_commands (e : Element) (dpi : Nat) (options : CompileOptions) :
    e.kind.Yields (e.commands dpi options).length := by
  have hfield : ∀ field, e.field? dpi = some field →
      (e.commands dpi options).length = 1 ∨ (e.commands dpi options).length = 2 := by
    intro field h
    rw [length_commands_of_field h]
    split
    · exact .inr rfl
    · exact .inl rfl
  cases hk : e.kind with
  | text t => exact hfield _ (by rw [field?, hk])
  | slot v => exact hfield _ (by rw [field?, hk])
  | barcode b => exact hfield _ (by rw [field?, hk])
  | line l => rw [commands, hk]; exact l.length_commands_le _ _
  | rectangle r => rw [commands, hk]; rfl
  | ellipse s => rw [commands, hk]; rfl
  | image i => rw [commands, hk]; rfl
  | unknown typeName => rw [commands, hk]; rfl

end Element

/-! ## Whole programs -/

/-- The commands of a program are within the limits of the printer, and each visible element has the
commands of its kind. -/
structure WithinLimits (canvas : Canvas) (elements : List Element) (options : CompileOptions) :
    Prop where
  accepted : ∀ c ∈ (compileProgram canvas elements options).commands, c.Accepted
  /-- Within the frame of the label stand the commands of one element after the other. -/
  blocks : ∃ front, (∀ c ∈ front, c.isFrame = true) ∧
    (compileProgram canvas elements options).commands =
      front ++ (printOrder elements).flatMap (·.commands canvas.dpi options) ++ [.endFormat]
  /-- They are the visible elements, each once. -/
  visible : (printOrder elements).Perm (elements.filter (·.frame.visible))
  yields : ∀ e ∈ printOrder elements, e.kind.Yields (e.commands canvas.dpi options).length
  /-- A box for a line has square corners. -/
  square : ∀ e ∈ printOrder elements, ∀ l, e.kind = .line l →
    ∀ x y width height thickness rounding,
      .box x y width height thickness rounding ∈ e.commands canvas.dpi options → rounding = 0

/-- **Every command of a program is within the limits of the printer**, whatever the geometry is. -/
theorem withinLimits (canvas : Canvas) (elements : List Element) (options : CompileOptions) :
    WithinLimits canvas elements options := by
  have hfront : ∀ c ∈ preamble canvas ++ tagSetup options (printOrder elements),
      c.isFrame = true := fun _ => isFrame_of_mem_front
  constructor
  case accepted =>
    intro c hc
    rcases List.mem_append.1 hc with hc | hc
    · rcases List.mem_append.1 hc with hc | hc
      · exact Command.accepted_of_isFrame (hfront c hc)
      · obtain ⟨e, -, hc⟩ := List.mem_flatMap.1 hc
        exact Element.accepted_of_mem_commands hc
    · rw [List.mem_singleton.1 hc]
      trivial
  case blocks => exact exists_front canvas elements options
  case visible => exact printOrder_perm elements
  case yields => exact fun e _ => e.yields_commands canvas.dpi options
  case square =>
    intro e _ l hk x y width height thickness rounding hbox
    rw [Element.commands, hk] at hbox
    cases LineElement.lineCommand_of_mem hbox
    rfl

end LabelPress
