import LabelPress.Proofs.Variables
import LabelPress.Proofs.Verbatim

/-!
# Carets

A caret starts a command, so a label does what its carets say. No text on a label brings one along:
data and remarks are escaped, and what is printed as it is has none (`Command.Plain`).

* `count_caret_render`: **the carets of a line are those of its command** (`Command.carets`, a small
  table), whatever the command says.
* `isInert`: in such a text no caret starts or ends a label. Lines of elements are inert
  (`isInert_render`), and so are inert texts put together (`isInert_append`).
* `OneLabel`: a document that starts one label, ends it and says nothing else about labels.
* `oneLabel_literal`: **a template without placeholders becomes such a document**.
-/

namespace LabelPress.Zpl

open LabelPress.Text

/-! ## Texts without carets -/

theorem caret_not_mem_escapeChars (s : List Char) : '^' ∉ escapeChars s := by
  intro h
  obtain ⟨c, -, hc⟩ := List.mem_flatMap.1 h
  unfold escapeChar at hc
  split at hc
  · simp at hc
  · split at hc
    · simp at hc
    · rename_i hne
      exact hne (List.mem_singleton.1 hc).symm

theorem remarkChar_ne_caret {c : Char} (h : c ≠ '^') : remarkChar c ≠ '^' := by
  unfold remarkChar
  split
  · decide
  · split
    · decide
    · exact h

theorem caret_not_mem_remark (s : List Char) : '^' ∉ (escapeChars s).map remarkChar := by
  intro h
  obtain ⟨c, hc, heq⟩ := List.mem_map.1 h
  have hne : c ≠ '^' := fun hcaret => caret_not_mem_escapeChars s (hcaret ▸ hc)
  exact remarkChar_ne_caret hne heq

/-- Of a plain command, only text of the command language and the name of a placeholder can have
carets. -/
theorem Command.caret_not_mem_own {c : Command} (hc : c.Plain) {w : Writing} {text : String}
    (h : .own w text ∈ c.spans) : '^' ∉ w.write text.toList := by
  cases w with
  | verbatim => exact caret_not_mem_of_isParameters (hc text h)
  | field => exact caret_not_mem_escapeChars _
  | remark => exact caret_not_mem_remark _

/-! ## Counting carets -/

/-- The number of carets on the line of a command. Only for a text it matters what the data is:
a number is not written as UTF-8. -/
def Command.carets : Command → Nat
  | startFormat | endFormat | printWidth _ | labelLength _ | labelHome .. | rfidSetup _ => 1
  | comment _ => 2
  | box .. | ellipse .. | diagonal .. | graphicField .. | rfidRead _ | rfidWrite .. => 3
  | qrCode .. => 4
  | linearBarcode .. => 5
  | text _ _ _ data => if data.isRfid then 4 else 7

@[simp] theorem count_caret_nat (n : Nat) : (Nat.toDigits 10 n).count '^' = 0 := by
  rw [← Nat.toList_repr, List.count_eq_zero]
  exact caret_not_mem_of_isParameters (isParameters_nat n)

@[simp] theorem count_caret_int (n : Int) : n.repr.toList.count '^' = 0 := by
  rw [Int.repr_eq_if]
  split <;> simp

@[simp] theorem orientation_ne_caret (o : Orientation) : o.code ≠ '^' := by
  cases o <;> decide

@[simp] theorem slope_ne_caret (slope : Slope) : slope.code ≠ '^' := by
  cases slope <;> decide

@[simp] theorem count_caret_font (font : Font) : font.render.toList.count '^' = 1 := by
  unfold Font.render
  cases font.face <;> simp [FontFace.fileName?]

@[simp] theorem count_caret_code (code : LinearBarcode) : code.render.toList.count '^' = 1 := by
  unfold LinearBarcode.render
  cases code.symbology <;> simp

@[simp] theorem count_caret_graphicBox (width height thickness rounding : Int) :
    (graphicBox width height thickness rounding).toList.count '^' = 1 := by
  unfold graphicBox
  split <;> simp

def Span.carets : Span → Nat
  | fixed text => text.toList.count '^'
  | own _ _ => 0
  | hole name => name.toList.count '^'

theorem Command.count_caret_span {c : Command} (hc : c.Plain) {s : Span} (hs : s ∈ c.spans) :
    s.chars.count '^' = s.carets := by
  cases s with
  | fixed text => rfl
  | own w text => exact List.count_eq_zero.2 (c.caret_not_mem_own hc hs)
  | hole name => simp [Span.chars, Piece.source, Span.carets]

/-- **The carets of a line are those of its command**, whatever texts the command carries. -/
theorem Command.count_caret_render {c : Command} (hc : c.Plain) (hp : c.placeholder? = none) :
    c.render.toList.count '^' = c.carets := by
  have hspans : c.render.toList.count '^' = (c.spans.map Span.carets).sum := by
    rw [toList_render, List.count_flatMap]
    exact congrArg List.sum (List.map_congr_left fun s hs => c.count_caret_span hc hs)
  rw [hspans]
  cases c with
  | text x y font data =>
    cases data with
    | placeholder name => cases hp
    | _ => simp [spans, FieldData.spans, Span.carets, carets, fieldTypeset, FieldData.isRfid,
        Zpl.fieldNumber, fieldEnd]
  | linearBarcode x y code data =>
    cases data with
    | placeholder name => cases hp
    | _ => simp [spans, FieldData.spans, Span.carets, carets, fieldOrigin, moduleWidth,
        Zpl.fieldNumber, fieldEnd]
  | qrCode x y magnification data =>
    cases data with
    | placeholder name => cases hp
    | _ => simp [spans, FieldData.spans, Span.carets, carets, fieldOrigin, Zpl.qrCode, qrDataMode,
        Zpl.fieldNumber, fieldEnd]
  | rfidWrite parameters value =>
    cases h : parameters.bank <;> simp [spans, Span.carets, carets, h]
  | _ =>
    simp [spans, Span.carets, carets, render, fieldOrigin, fieldEnd, Zpl.rfidSetup,
      graphicEllipse, graphicDiagonal]

/-! ## Carets that start no label -/

/-- No caret of the text starts a label or ends one: each is followed by a character, and never by
`X`. -/
def isInert : List Char → Bool
  | [] => true
  | c :: s => (c != '^' || s.head?.any (· != 'X')) && isInert s

@[simp] theorem isInert_append {s t : List Char} (hs : isInert s = true) (ht : isInert t = true) :
    isInert (s ++ t) = true := by
  induction s with
  | nil => exact ht
  | cons c s ih =>
    simp only [isInert, Bool.and_eq_true, Bool.or_eq_true] at hs
    simp only [List.cons_append, isInert, Bool.and_eq_true, Bool.or_eq_true]
    refine ⟨hs.1.imp_right fun hnext => ?_, ih hs.2⟩
    obtain ⟨d, hd, hne⟩ := (Option.any_eq_true ..).1 hnext
    rw [List.head?_append, hd]
    exact hne

/-- A text without carets can be left out of account. -/
theorem isInert_append_of_caret_not_mem {s : List Char} (h : '^' ∉ s) (t : List Char) :
    isInert (s ++ t) = isInert t := by
  induction s with
  | nil => rfl
  | cons c s ih =>
    rw [List.mem_cons, not_or] at h
    have hc : (c != '^') = true := by simpa using Ne.symm h.1
    simp [isInert, hc, ih h.2]

theorem isInert_of_caret_not_mem {s : List Char} (h : '^' ∉ s) : isInert s = true := by
  simpa [isInert] using isInert_append_of_caret_not_mem h []

@[simp] theorem isInert_nat_append (n : Nat) (t : List Char) :
    isInert (Nat.toDigits 10 n ++ t) = isInert t :=
  isInert_append_of_caret_not_mem (List.count_eq_zero.1 (count_caret_nat n)) t

@[simp] theorem isInert_int_append (n : Int) (t : List Char) :
    isInert (n.repr.toList ++ t) = isInert t :=
  isInert_append_of_caret_not_mem (List.count_eq_zero.1 (count_caret_int n)) t

@[simp] theorem isInert_nat (n : Nat) : isInert (Nat.toDigits 10 n) = true :=
  isInert_of_caret_not_mem (List.count_eq_zero.1 (count_caret_nat n))

@[simp] theorem isInert_int (n : Int) : isInert n.repr.toList = true :=
  isInert_of_caret_not_mem (List.count_eq_zero.1 (count_caret_int n))

@[simp] theorem isInert_font (font : Font) : isInert font.render.toList = true := by
  unfold Font.render
  cases font.face <;> simp [FontFace.fileName?, isInert]

@[simp] theorem isInert_code (code : LinearBarcode) : isInert code.render.toList = true := by
  unfold LinearBarcode.render
  cases code.symbology <;> simp [isInert]

@[simp] theorem isInert_graphicBox (width height thickness rounding : Int) :
    isInert (graphicBox width height thickness rounding).toList = true := by
  unfold graphicBox
  split <;> simp [isInert]

/-- Text of the command language is inert, except that of the first and the last command. -/
theorem Command.isInert_fixed {c : Command} (hstart : c ≠ .startFormat) (hend : c ≠ .endFormat) :
    ∀ text, .fixed text ∈ c.spans → isInert text.toList = true := by
  cases c with
  | startFormat => exact absurd rfl hstart
  | endFormat => exact absurd rfl hend
  | text x y font data =>
    cases data <;> simp [spans, FieldData.spans, fieldTypeset, Zpl.fieldNumber, fieldEnd, isInert]
  | linearBarcode x y code data =>
    cases data <;>
      simp [spans, FieldData.spans, fieldOrigin, moduleWidth, Zpl.fieldNumber, fieldEnd, isInert]
  | qrCode x y magnification data =>
    cases data <;>
      simp [spans, FieldData.spans, fieldOrigin, Zpl.qrCode, qrDataMode, Zpl.fieldNumber, fieldEnd,
        isInert]
  | rfidWrite parameters value =>
    cases h : parameters.bank <;> simp [spans, h, isInert]
  | _ =>
    simp [spans, render, fieldOrigin, fieldEnd, Zpl.rfidSetup, graphicEllipse, graphicDiagonal,
      isInert]

theorem isInert_flatMap {α : Type} {f : α → List Char} {l : List α}
    (h : ∀ a ∈ l, isInert (f a) = true) : isInert (l.flatMap f) = true := by
  induction l with
  | nil => rfl
  | cons a l ih =>
    rw [List.forall_mem_cons] at h
    exact isInert_append h.1 (ih h.2)

/-- **A plain line without a placeholder is inert** unless it is the first or the last. -/
theorem Command.isInert_render {c : Command} (hc : c.Plain) (hp : c.placeholder? = none)
    (hstart : c ≠ .startFormat) (hend : c ≠ .endFormat) : isInert c.render.toList = true := by
  rw [toList_render]
  refine isInert_flatMap fun s hs => ?_
  cases s with
  | fixed text => exact c.isInert_fixed hstart hend text hs
  | own w text => exact isInert_of_caret_not_mem (c.caret_not_mem_own hc hs)
  | hole name =>
    have hname : name ∈ c.spans.filterMap Span.name? := List.mem_filterMap.2 ⟨_, hs, rfl⟩
    rw [c.filterMap_name?_spans, hp] at hname
    simp at hname

/-! ## One label -/

theorem exists_next_of_isInert {before after : List Char}
    (h : isInert (before ++ '^' :: after) = true) : ∃ c rest, after = c :: rest ∧ c ≠ 'X' := by
  induction before with
  | nil =>
    cases after with
    | nil => simp [isInert] at h
    | cons c rest =>
      refine ⟨c, rest, rfl, ?_⟩
      simpa [isInert] using (Bool.and_eq_true_iff.1 h).1
  | cons b before ih => exact ih (Bool.and_eq_true_iff.1 h).2

/-- In an inert text with the end of a label after it, only that end has a caret before an `X`. -/
theorem eq_of_append_end {s before after : List Char} (hs : isInert s = true)
    (h : s ++ ['^', 'X', 'Z'] = before ++ '^' :: 'X' :: after) : before = s ∧ after = ['Z'] := by
  rcases List.append_eq_append_iff.1 h with ⟨m, rfl, hm⟩ | ⟨m, rfl, hm⟩
  · -- the caret is in the end, where there is only one
    cases m with
    | nil =>
      simp only [List.nil_append, List.cons.injEq, true_and] at hm
      exact ⟨List.append_nil s, hm.symm⟩
    | cons c m =>
      have hcaret : '^' ∈ ['X', 'Z'] := by
        rw [(List.cons.inj hm).2]
        simp
      exact absurd hcaret (by decide)
  · -- the caret is in the text, unless no text is left after the part before it
    cases m with
    | nil =>
      simp only [List.nil_append, List.cons.injEq, true_and] at hm
      exact ⟨(List.append_nil before).symm, hm⟩
    | cons c m =>
      obtain ⟨rfl, hrest⟩ := List.cons.inj hm
      obtain ⟨d, m, rfl, hne⟩ := exists_next_of_isInert hs
      exact absurd (List.cons.inj hrest).1.symm hne

/-- Around an inert text, a caret before an `X` belongs to the start or to the end. -/
theorem start_or_end_of_isInert {body before after : List Char} {c : Char}
    (hbody : isInert body = true)
    (h : '^' :: 'X' :: 'A' :: body ++ ['^', 'X', 'Z'] = before ++ '^' :: 'X' :: c :: after) :
    before = [] ∧ c = 'A' ∨ after = [] ∧ c = 'Z' := by
  cases before with
  | nil =>
    simp only [List.nil_append, List.cons_append, List.cons.injEq, true_and] at h
    exact .inl ⟨rfl, h.1.symm⟩
  | cons b before =>
    simp only [List.cons_append, List.cons.injEq] at h
    have hinert : isInert ('X' :: 'A' :: body) = true := by simpa [isInert] using hbody
    obtain ⟨-, hafter⟩ := eq_of_append_end hinert h.2
    obtain ⟨rfl, rfl⟩ := List.cons.inj hafter
    exact .inr ⟨rfl, rfl⟩

/-- The document is one label: it starts with the start of a label, ends with its end, and has
neither anywhere else. How many carets it has is decided by the kinds of its commands alone. -/
structure OneLabel (p : Program) : Prop where
  carets : p.document.toList.count '^' = (p.commands.map Command.carets).sum
  framed : ∃ body, p.document = "^XA" ++ body ++ "^XZ"
  starts_once : ∀ before after, p.document.toList = before ++ "^XA".toList ++ after → before = []
  ends_once : ∀ before after, p.document.toList = before ++ "^XZ".toList ++ after → after = []

/-- **Plain commands without placeholders make one label** between the start and the end. -/
theorem oneLabel_of_plain {commands : List Command} (hplain : ∀ c ∈ commands, c.Plain)
    (hnames : ∀ c ∈ commands, c.placeholder? = none)
    (hframe : ∀ c ∈ commands, c ≠ .startFormat ∧ c ≠ .endFormat) :
    OneLabel ⟨.startFormat :: (commands ++ [.endFormat])⟩ := by
  have hbody : isInert (onNewLines (commands.map Command.render) ++ "\n").toList = true := by
    rw [String.toList_append, toList_onNewLines]
    refine isInert_append (isInert_flatMap fun line hline => ?_) (by decide)
    obtain ⟨c, hc, rfl⟩ := List.mem_map.1 hline
    obtain ⟨hstart, hend⟩ := hframe c hc
    have hrender := Command.isInert_render (hplain c hc) (hnames c hc) hstart hend
    simpa [isInert] using hrender
  generalize hb : onNewLines (commands.map Command.render) ++ "\n" = body at hbody
  have hdocument : Program.document ⟨.startFormat :: (commands ++ [.endFormat])⟩ =
      "^XA" ++ body ++ "^XZ" := by
    rw [← hb]
    simp [Program.document, Program.lines, joinLines, onNewLines, Command.render,
      String.append_assoc]
  have hchars : (Program.document ⟨.startFormat :: (commands ++ [.endFormat])⟩).toList =
      '^' :: 'X' :: 'A' :: body.toList ++ ['^', 'X', 'Z'] := by
    rw [hdocument, String.toList_append, String.toList_append]
    rfl
  constructor
  case carets =>
    have hends : ∀ c ∈ [Command.startFormat, .endFormat], c.render.toList.count '^' = c.carets := by
      decide
    rw [Program.document, count_joinLines (by decide), Program.lines, List.map_map]
    refine congrArg List.sum (List.map_congr_left fun c hc => ?_)
    rw [List.mem_cons, List.mem_append, List.mem_singleton] at hc
    rcases hc with rfl | hc | rfl
    · exact hends _ (by simp)
    · exact Command.count_caret_render (hplain c hc) (hnames c hc)
    · exact hends _ (by simp)
  case framed => exact ⟨body, hdocument⟩
  case starts_once =>
    intro before after h
    rw [hchars, List.append_assoc] at h
    rcases start_or_end_of_isInert hbody h with ⟨hbefore, -⟩ | ⟨-, hc⟩
    · exact hbefore
    · exact absurd hc (by decide)
  case ends_once =>
    intro before after h
    rw [hchars, List.append_assoc] at h
    rcases start_or_end_of_isInert hbody h with ⟨-, hc⟩ | ⟨hafter, -⟩
    · exact absurd hc (by decide)
    · exact hafter

end LabelPress.Zpl

namespace LabelPress

open LabelPress.Zpl

/-- The commands between the start and the end of a label. -/
def labelBody (canvas : Canvas) (elements : List Element) (options : CompileOptions) :
    List Command :=
  [.printWidth canvas.widthDots, .labelLength canvas.heightDots, .labelHome 0 0]
    ++ tagSetup options (printOrder elements)
    ++ (printOrder elements).flatMap (·.commands canvas.dpi options)

theorem compileProgram_eq (canvas : Canvas) (elements : List Element) (options : CompileOptions) :
    compileProgram canvas elements options =
      ⟨.startFormat :: (labelBody canvas elements options ++ [.endFormat])⟩ := by
  simp [compileProgram, labelBody, preamble]

theorem not_start_or_end_of_mem_labelBody {canvas : Canvas} {elements : List Element}
    {options : CompileOptions} {c : Command} (h : c ∈ labelBody canvas elements options) :
    c ≠ .startFormat ∧ c ≠ .endFormat := by
  rw [labelBody, List.mem_append, List.mem_append] at h
  rcases h with (h | h) | h
  · simp only [List.mem_cons, List.not_mem_nil, or_false] at h
    rcases h with rfl | rfl | rfl <;> simp
  · rw [mem_tagSetup h]
    simp
  · constructor
    · rintro rfl
      exact not_mem_flatMap_commands rfl h
    · rintro rfl
      exact not_mem_flatMap_commands rfl h

/-- **A template without placeholders becomes one label**, whatever its texts are: no content,
sample value, name, format or font adds a command to it. -/
theorem oneLabel_literal (t : Template) (bitmaps : Std.TreeMap String Bitmap) :
    OneLabel (t.program (.ofBitmaps false bitmaps)) := by
  have hplain := plain_compileProgram (CompileOptions.plain_ofBitmaps false bitmaps) t.canvas
    t.elements
  have hnames := filterMap_placeholder?_compileProgram t.canvas t.elements
    (.ofBitmaps false bitmaps)
  rw [if_neg (by simp [CompileOptions.ofBitmaps]), List.filterMap_eq_nil_iff] at hnames
  have hbody : ∀ c ∈ labelBody t.canvas t.elements (.ofBitmaps false bitmaps),
      c ∈ (compileProgram t.canvas t.elements (.ofBitmaps false bitmaps)).commands := by
    intro c hc
    rw [compileProgram_eq]
    exact List.mem_cons_of_mem _ (List.mem_append_left _ hc)
  rw [Template.program, compileProgram_eq]
  exact oneLabel_of_plain (fun c hc => hplain c (hbody c hc)) (fun c hc => hnames c (hbody c hc))
    fun c hc => not_start_or_end_of_mem_labelBody hc

end LabelPress
