import LabelPress.Proofs.ElementFields
import LabelPress.Proofs.JsonText
import LabelPress.Template.Compile

/-!
# Templates read back

A template that was read can be written, and what is written reads back as the same template.

* `Canvas.reads_toJson`: **a canvas reads back**.
* `Template.reads_elements`: **a list of elements reads back**.
* `Template.parse_render`: **a template reads back**, and so compiles to the same document.
-/

namespace LabelPress

open LabelPress.Number Json Json.Reader

/-! ## Canvases -/

namespace Canvas

variable {α β : Type} {c : Canvas}

theorem reads_float {x : Float} (h : ReadsBack x) : Reads readFloat (render (.real x)).toList x :=
  reads_numberFor h rfl

theorem reads_dpi {dpi : Nat} (h : dpi ≤ maxDpi) :
    Reads readDpi (render (.integer dpi)).toList dpi := by
  have hrange : (0 : Int) ≤ dpi ∧ (dpi : Int) ≤ 0xffffffff := by
    unfold maxDpi at h
    omega
  have htext : number (toString (dpi : Int)).toList = .ok (.integer dpi, []) := by
    refine number_integer ?_ ?_
    · unfold minInteger
      omega
    · unfold maxInteger
      omega
  exact reads_numberFor htext (if_pos hrange)

theorem reads_once {key : String} {item : Reader β} {text : List Char} {b : β}
    (h : Reads item text b) : Reads (once key (none : Option α) item) (':' :: text) b :=
  fun rest hrest => h rest hrest

/-- The fields of a canvas. -/
def toFields (c : Canvas) : List (String × Json) :=
  [("width", .real c.width), ("height", .real c.height), ("dpi", .integer c.dpi)]
    ++ c.backgroundColor.toList.map fun color => ("backgroundColor", .string color)

theorem toJson_eq (c : Canvas) : c.toJson = .object c.toFields := rfl

/-- The draft of a whole canvas. -/
def draft (c : Canvas) : Draft :=
  { width := some c.width, height := some c.height, dpi := some c.dpi,
    backgroundColor := c.backgroundColor.map some }

theorem finish_draft (c : Canvas) : c.draft.finish = .ok c := by
  obtain ⟨width, height, dpi, colour⟩ := c
  cases colour <;> rfl

/-- The fields of a canvas are read one after another. -/
theorem steps_toFields (hdpi : c.dpi ≤ maxDpi) (hwidth : ReadsBack c.width)
    (hheight : ReadsBack c.height) :
    Steps (ReadsField step) {}
      (c.toFields.map fun x => (x.1, x.2.render.toList)) c.draft := by
  obtain ⟨width, height, dpi, colour⟩ := c
  simp only [toFields, List.map_append, List.map_cons, List.cons_append]
  refine .cons (.intro ((reads_once (reads_float hwidth)).bind fun _ _ => rfl)) ?_
  refine .cons (.intro ((reads_once (reads_float hheight)).bind fun _ _ => rfl)) ?_
  refine .cons (.intro ((reads_once (reads_dpi hdpi)).bind fun _ _ => rfl)) ?_
  cases colour with
  | none => exact .nil _
  | some colour =>
    simp only [Option.toList_some, List.map_cons, List.map_nil]
    exact .cons (.intro ((reads_once (reads_optional colour)).bind fun _ _ => rfl)) (.nil _)

theorem read_brace (depth : Nat) (s : List Char) :
    read (depth + 1) ('\x7b' :: s) = readObject s := rfl

theorem lift_finish_draft (c : Canvas) (s : List Char) :
    (liftM c.draft.finish : Reader Canvas) s = .ok (c, s) := by
  rw [finish_draft]
  rfl

/-- **A canvas reads back.** -/
theorem reads_toJson (hdpi : c.dpi ≤ maxDpi) (hwidth : ReadsBack c.width)
    (hheight : ReadsBack c.height) (depth : Nat) :
    Reads (read (depth + 1)) c.toJson.render.toList c := by
  intro rest _
  have hsteps := steps_toFields hdpi hwidth hheight
  have hfold := foldFields_eq hsteps (length_lt_fields _ rest) true rest
  rw [toJson_eq, toList_render_object, read_brace]
  refine (bind_eq get_eq).trans ((bind_eq hfold).trans ?_)
  refine (bind_eq (lift_finish_draft c _)).trans ?_
  exact bind_eq closeObject_eq

end Canvas

/-! ## Templates -/

theorem ElementKind.isKnown_of_ne_unknown {kind : ElementKind} (h : ∀ name, kind ≠ .unknown name) :
    kind.isKnown := by
  cases kind with
  | unknown name => exact absurd rfl (h name)
  | _ => rfl

/-- The floats of a frame. -/
def Frame.floats (f : Frame) : List Float := [f.x, f.y, f.width, f.height, f.rotation]

/-- The floats of a kind. -/
def ElementKind.floats : ElementKind → List Float
  | text t => [t.fontSize]
  | rectangle r => [r.strokeWidth, r.cornerRadius]
  | ellipse e => [e.strokeWidth]
  | line l => [l.strokeWidth]
  | _ => []

/-- The floats of a template. -/
def Template.floats (t : Template) : List Float :=
  [t.canvas.width, t.canvas.height]
    ++ t.elements.flatMap fun e => e.frame.floats ++ e.kind.floats

theorem Json.scalar_ofOptionalString (s : Option String) : Scalar (ofOptionalString s) := by
  cases s <;> trivial

theorem Frame.Fits.scalar {f : Frame} (hf : f.Fits) : Scalar (.integer f.zIndex) := by
  obtain ⟨hmin, hmax⟩ := hf
  unfold int32Min at hmin
  unfold int32Max at hmax
  constructor
  · unfold minInteger
    omega
  · unfold maxInteger
    omega

theorem Frame.scalar_of_mem_toFields {f : Frame} (hf : f.Fits)
    (hfloats : ∀ x ∈ f.floats, ReadsBack x) : ∀ field ∈ f.toFields, Scalar field.2 := by
  have hlayer := hf.scalar
  simp_all [floats, toFields]

theorem ElementKind.scalar_of_mem_toFields {kind : ElementKind}
    (hfloats : ∀ x ∈ kind.floats, ReadsBack x) : ∀ field ∈ kind.toFields, Scalar field.2 := by
  cases kind <;> simp_all [floats, toFields, scalar_ofOptionalString]

theorem Element.scalar_of_mem_toFields {e : Element} (hfits : e.frame.Fits)
    (hfloats : ∀ x ∈ e.frame.floats ++ e.kind.floats, ReadsBack x) :
    ∀ field ∈ e.toFields, Scalar field.2 := by
  obtain ⟨hframe, hkind⟩ := List.forall_mem_append.1 hfloats
  refine List.forall_mem_append.2 ⟨Frame.scalar_of_mem_toFields hfits hframe, ?_⟩
  exact List.forall_mem_cons.2 ⟨trivial, ElementKind.scalar_of_mem_toFields hkind⟩

namespace Template

variable {t : Template}

theorem elementValues_eq {es : List Element} (h : ∀ e ∈ es, e.kind.isKnown) :
    elementValues es = .ok (es.map fun e => .object e.toFields) := by
  induction es with
  | nil => rfl
  | cons e es ih =>
    rw [elementValues, Element.toJson_eq (h e List.mem_cons_self),
      ih fun d hd => h d (List.mem_cons_of_mem e hd)]
    rfl

/-- The fields of a template of known elements. -/
def toFields (t : Template) : List (String × Json) :=
  [("canvas", t.canvas.toJson), ("elements", .array (t.elements.map fun e => .object e.toFields))]

theorem toJson_eq (h : ∀ e ∈ t.elements, e.kind.isKnown) : t.toJson = .ok (.object t.toFields) := by
  unfold toJson
  rw [elementValues_eq h]
  rfl

theorem readElements_bracket (depth : Nat) (s : List Char) : readElements (depth + 1) ('[' :: s)
    = (items (value depth) >>= fun values => liftM (Element.listOfJson 0 values) :
        Reader (List Element)) s := rfl

/-- **The elements read back.** -/
theorem reads_elements {es : List Element} (hknown : ∀ e ∈ es, e.kind.isKnown)
    (hfits : ∀ e ∈ es, e.frame.Fits)
    (hfloats : ∀ e ∈ es, ∀ x ∈ e.frame.floats ++ e.kind.floats, ReadsBack x) (depth : Nat) :
    Reads (readElements (depth + 2))
      (render (.array (es.map fun e => .object e.toFields))).toList es := by
  intro rest _
  have hreadable : ∀ j ∈ es.map fun e => Json.object e.toFields, Readable (depth + 1) j := by
    intro j hj
    obtain ⟨e, he, rfl⟩ := List.mem_map.1 hj
    intro field hfield
    exact (Element.scalar_of_mem_toFields (hfits e he) (hfloats e he) field hfield).readable
  have hitems := items_eq (fun j : Json => j.render.toList)
    (fun j hj => ⟨(hreadable j hj).starts, reads_value (hreadable j hj)⟩) rest
  have hlist : (liftM (Element.listOfJson 0 (es.map fun e => .object e.toFields)) :
      Reader (List Element)) rest = .ok (es, rest) := by
    rw [Element.listOfJson_eq hknown hfits]
    rfl
  rw [toList_render_array, readElements_bracket]
  exact (bind_eq hitems).trans hlist

/-- The draft of a whole template. -/
def draft (t : Template) : Draft := { canvas := some t.canvas, elements := some t.elements }

theorem lift_finish_draft (t : Template) (s : List Char) :
    (liftM t.draft.finish : Reader Template) s = .ok (t, s) := rfl

/-- What is asked of the elements and floats of a template that is written. -/
structure Writable (t : Template) : Prop where
  fits : t.Fits
  known : ∀ e ∈ t.elements, e.kind.isKnown
  floats : ∀ x ∈ t.floats, ReadsBack x

theorem Writable.steps_toFields (h : t.Writable) (depth : Nat) :
    Steps (ReadsField (step (depth + 2))) {}
      (t.toFields.map fun x => (x.1, x.2.render.toList)) t.draft := by
  have hwidth : ReadsBack t.canvas.width := h.floats _ (by simp [Template.floats])
  have hheight : ReadsBack t.canvas.height := h.floats _ (by simp [Template.floats])
  have helements : ∀ e ∈ t.elements, ∀ x ∈ e.frame.floats ++ e.kind.floats, ReadsBack x := by
    intro e he x hx
    exact h.floats x (List.mem_append_right _ (List.mem_flatMap.2 ⟨e, he, hx⟩))
  have hcanvas := Canvas.reads_toJson h.fits.dpi hwidth hheight (depth + 1)
  have hlist := reads_elements h.known h.fits.frames helements depth
  refine .cons (.intro ((Canvas.reads_once hcanvas).bind fun _ _ => rfl)) ?_
  exact .cons (.intro ((Canvas.reads_once hlist).bind fun _ _ => rfl)) (.nil _)

theorem read_brace (s : List Char) :
    read ('\x7b' :: s) = readObject (maxDepth - 1) s := rfl

theorem Writable.read_toFields (h : t.Writable) :
    read (render (.object t.toFields)).toList = .ok (t, []) := by
  have hfold := foldFields_eq (h.steps_toFields (maxDepth - 3)) (length_lt_fields _ []) true []
  have htext := toList_render_object t.toFields []
  rw [List.append_nil] at htext
  rw [htext, read_brace]
  refine (bind_eq get_eq).trans ((bind_eq hfold).trans ?_)
  refine (bind_eq (lift_finish_draft t _)).trans ?_
  exact bind_eq closeObject_eq

/-- **A template reads back** from its text, and compiles to the same document. -/
theorem parse_render {s : String} (hparse : parse s = .ok t)
    (hknown : ∀ e ∈ t.elements, ∀ name, e.kind ≠ .unknown name)
    (hfloats : ∀ x ∈ t.floats, ReadsBack x) :
    ∃ value t', t.toJson = .ok value ∧ parse value.render = .ok t' ∧ t' = t ∧
      ∀ options, t'.compile options = t.compile options := by
  obtain ⟨hfits, hcheck⟩ := fits_of_parse hparse
  have hkinds : ∀ e ∈ t.elements, e.kind.isKnown :=
    fun e he => ElementKind.isKnown_of_ne_unknown (hknown e he)
  have hwritable : t.Writable := ⟨hfits, hkinds, hfloats⟩
  refine ⟨.object t.toFields, t, toJson_eq hkinds, ?_, rfl, fun _ => rfl⟩
  have hrun : Reader.run read (render (.object t.toFields)) = .ok t := by
    unfold Reader.run
    rw [hwritable.read_toFields]
    rfl
  unfold parse
  rw [hrun]
  dsimp only
  rw [hcheck]

/-- The text of a label with a name on it. -/
def badgeText : String :=
  "\x7b\"elements\":
      [\x7b\"type\":\"text\",\"zIndex\":-3,\"id\":\"a\",\"content\":\"\\u00e9 \\n\"\x7d],
    \"canvas\":\x7b\"width\":58,\"height\":40.5,\"backgroundColor\":\"white\"\x7d\x7d"

/-- The label of this text. -/
def badge : Template where
  canvas := { width := 58, height := 40.5, backgroundColor := some "white" }
  elements := [{ frame := { id := "a", zIndex := -3 }, kind := .text { content := "é \n" } }]

theorem parse_badgeText : parse badgeText = .ok badge := by
  have h : (parse badgeText).toOption = some badge := by decide +kernel
  cases hparse : parse badgeText with
  | error fault => rw [hparse] at h; cases h
  | ok t =>
    rw [hparse] at h
    exact congrArg Except.ok (Option.some.inj h)

theorem parse_render_badge : parse badgeText = .ok badge ∧
    (∀ e ∈ badge.elements, ∀ name, e.kind ≠ .unknown name) ∧ (∀ x ∈ badge.floats, ReadsBack x) ∧
    ∃ value t', badge.toJson = .ok value ∧ parse value.render = .ok t' ∧ t' = badge ∧
      ∀ options, t'.compile options = badge.compile options := by
  have hknown : ∀ e ∈ badge.elements, ∀ name, e.kind ≠ .unknown name := by simp [badge]
  have hfloats : ∀ x ∈ badge.floats, ReadsBack x := by decide +kernel
  exact ⟨parse_badgeText, hknown, hfloats, parse_render parse_badgeText hknown hfloats⟩

end Template

end LabelPress
