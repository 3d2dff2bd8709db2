import LabelPress.Proofs.Recognition
import LabelPress.Proofs.RowData

/-!
# Characters that escaping leaves alone

Field data is escaped for carets and backslashes only. A line feed or a tilde in it gets into the
document as it is, although a line feed ends a line there and a tilde starts a command. Such a
character is foreign to the command language (`Foreign`), and remarks are cleaned of it.

* `Command.content`: what the field of a command says. `Command.count_render`: **a foreign
  character on a line is one of the content**.
* `Element.content`, `content_compileProgram`: **the contents of a program are those of its visible
  elements**.
* `length_splitOn_joinLines`, `splitOn_joinLines_iff`: how joined lines split again.
* `splitOn_compile`: **a document has the lines of its commands** exactly if no visible element says
  a line feed.
* `tilde_sources`: **a document has a tilde** exactly if a visible element says one, and filling
  brings one in exactly if a value has one.
-/

namespace LabelPress.Zpl

open LabelPress.Text LabelPress.Piece

/-! ## Foreign characters -/

/-- The command language does not use the character, and remarks are cleaned of it. -/
structure Foreign (ch : Char) : Prop where
  isCommandChar : isCommandChar ch = false
  isNameChar : isNameChar ch = true
  remarkChar : ∀ c, remarkChar c ≠ ch

theorem foreign_newline : Foreign '\n' where
  isCommandChar := by decide
  isNameChar := by decide
  remarkChar c := by
    unfold remarkChar
    split
    · decide
    · split
      · decide
      · rename_i h
        exact fun hc => h (.inr hc)

theorem foreign_tilde : Foreign '~' where
  isCommandChar := by decide
  isNameChar := by decide
  remarkChar c := by
    unfold remarkChar
    split
    · decide
    · split
      · decide
      · assumption

namespace Foreign

variable {ch : Char} (h : Foreign ch)

include h

theorem ne_of_isCommandChar {c : Char} (hc : LabelPress.Zpl.isCommandChar c = true) : ch ≠ c := by
  rintro rfl
  rw [h.isCommandChar] at hc
  cases hc

theorem count_inAlphabet {s : String} (hs : InAlphabet s) : s.toList.count ch = 0 := by
  rw [List.count_eq_zero]
  exact fun hmem => h.ne_of_isCommandChar (hs ch hmem) rfl

theorem count_escapeChars (s : List Char) : (escapeChars s).count ch = s.count ch := by
  have hbackslash : '\\' ≠ ch := (h.ne_of_isCommandChar (by decide)).symm
  have hcaret : '^' ≠ ch := (h.ne_of_isCommandChar (by decide)).symm
  have hunderscore : '_' ≠ ch := (h.ne_of_isCommandChar (by decide)).symm
  have hchar : ∀ c, (escapeChar c).count ch = [c].count ch := by
    intro c
    unfold escapeChar
    split
    · rename_i hc
      simp [hc, hbackslash]
    · split
      · rename_i hc
        simp [hc, hcaret, hunderscore]
      · rfl
  induction s with
  | nil => rfl
  | cons c s ih =>
    rw [escapeChars, List.flatMap_cons, List.count_append, hchar, ← escapeChars, ih,
      ← List.count_append, List.singleton_append]

theorem count_remark (s : List Char) :
    ((escapeChars s).map LabelPress.Zpl.remarkChar).count ch = 0 := by
  rw [List.count_eq_zero]
  intro hmem
  obtain ⟨c, -, hc⟩ := List.mem_map.1 hmem
  exact h.remarkChar c hc

theorem count_source (name : List Char) : (hole name).source.count ch = name.count ch := by
  obtain ⟨hopen, hclose⟩ := isNameChar_iff.1 h.isNameChar
  simp [source, hopen.symm, hclose.symm]

end Foreign

/-! ## What a command says -/

/-- The text of the data of a field: a number has none. -/
def FieldData.text : FieldData → String
  | literal text => text
  | placeholder name => name
  | fieldNumber _ => ""

/-- What the field of a command says; a command without a field says nothing. -/
def Command.content (c : Command) : String := (c.data?.map FieldData.text).getD ""

/-- What a span says of the content. -/
def Span.content : Span → List Char
  | own .field text => text.toList
  | hole name => name.toList
  | fixed _ | own .verbatim _ | own .remark _ => []

theorem Command.flatMap_content_spans (c : Command) :
    c.spans.flatMap Span.content = c.content.toList := by
  cases c with
  | text x y font data =>
    cases data <;> simp [spans, FieldData.spans, Span.content, content, data?, FieldData.text]
  | linearBarcode x y code data =>
    cases data <;> simp [spans, FieldData.spans, Span.content, content, data?, FieldData.text]
  | qrCode x y magnification data =>
    cases data <;> simp [spans, FieldData.spans, Span.content, content, data?, FieldData.text]
  | _ => simp [spans, Span.content, content, data?]

/-- **A foreign character on a line is one of the content**: neither the command language nor a
remark nor a text that is printed as it is has any. -/
theorem Command.count_render {c : Command} (hc : c.Plain) {ch : Char} (h : Foreign ch) :
    c.render.toList.count ch = c.content.toList.count ch := by
  have hspan : ∀ s ∈ c.spans, s.chars.count ch = s.content.count ch := by
    intro s hs
    cases s with
    | fixed text => exact h.count_inAlphabet (c.inLanguage_spans _ hs).2
    | hole name => exact h.count_source _
    | own w text =>
      cases w with
      | field => exact h.count_escapeChars _
      | remark => exact h.count_remark _
      | verbatim =>
        refine h.count_inAlphabet fun d hd => ?_
        exact isCommandChar_of_isParameterChar (hc text hs d hd)
  rw [c.toList_render, ← c.flatMap_content_spans]
  exact count_flatMap_congr hspan

theorem Command.content_of_data? {c : Command} {data : FieldData} (h : c.data? = some data) :
    c.content = data.text := by
  rw [content, h, Option.map_some, Option.getD_some]

theorem Command.content_of_isFigure {c : Command} (h : c.isFigure = true) : c.content = "" := by
  rw [content, data?_of_isFigure h]
  rfl

theorem Command.content_of_isFrame {c : Command} (h : c.isFrame = true) : c.content = "" := by
  cases c with
  | startFormat | endFormat | printWidth | labelLength | labelHome | rfidSetup => rfl
  | _ => cases h

theorem flatMap_content_eq_nil {commands : List Command} (h : ∀ c ∈ commands, c.content = "") :
    commands.flatMap (·.content.toList) = [] := by
  rw [List.flatMap_eq_nil_iff]
  intro c hc
  rw [h c hc]
  rfl

/-! ## Splitting lines -/

theorem length_splitOn (s : List Char) (ch : Char) :
    (List.splitOn ch s).length = s.count ch + 1 := by
  rw [List.splitOn_eq_splitOnP]
  induction s with
  | nil => rfl
  | cons c s ih =>
    rw [List.splitOnP_cons_eq_if_modifyHead, List.count_cons]
    split
    · rw [List.length_cons, ih]
    · rw [List.length_modifyHead, ih]

theorem toList_joinLines (lines : List String) :
    (joinLines lines).toList = ['\n'].intercalate (lines.map String.toList) := by
  cases lines with
  | nil => rfl
  | cons line lines =>
    rw [joinLines, String.toList_append, toList_onNewLines]
    induction lines generalizing line with
    | nil => simp
    | cons next lines ih =>
      rw [List.map_cons, List.map_cons, List.intercalate_cons_cons, ← List.map_cons, ← ih next]
      simp

theorem sum_count_pos_iff {α : Type} {l : List α} {f : α → List Char} {ch : Char} :
    0 < (l.map fun a => (f a).count ch).sum ↔ ∃ a ∈ l, ch ∈ f a := by
  simp [List.sum_pos_iff_exists_pos_nat, List.count_pos_iff]

theorem mem_joinLines_iff {ch : Char} (h : ch ≠ '\n') {lines : List String} :
    ch ∈ (joinLines lines).toList ↔ ∃ line ∈ lines, ch ∈ line.toList := by
  rw [← List.count_pos_iff, count_joinLines h, sum_count_pos_iff]

/-- Joined lines split into as many lines as there are, and one more for each line feed in them. -/
theorem length_splitOn_joinLines {lines : List String} (hne : lines ≠ []) :
    (List.splitOn '\n' (joinLines lines).toList).length =
      lines.length + (lines.map (·.toList.count '\n')).sum := by
  rw [length_splitOn, count_newline_joinLines hne]

/-- **Joined lines split into the same lines** exactly if none of them has a line feed. -/
theorem splitOn_joinLines_iff {lines : List String} (hne : lines ≠ []) :
    List.splitOn '\n' (joinLines lines).toList = lines.map String.toList ↔
      ∀ line ∈ lines, '\n' ∉ line.toList := by
  constructor
  · -- as many parts as lines leave no line feed for a line
    intro h line hline
    have hlength := length_splitOn_joinLines hne
    rw [h, List.length_map] at hlength
    have hsum : (lines.map (·.toList.count '\n')).sum = 0 := by omega
    have hcount := List.sum_eq_zero_iff_forall_eq_nat.1 hsum _ (List.mem_map_of_mem hline)
    exact List.count_eq_zero.1 hcount
  · intro h
    rw [toList_joinLines]
    refine List.splitOn_intercalate '\n' ?_ (by simpa using hne)
    intro l hl
    obtain ⟨line, hline, rfl⟩ := List.mem_map.1 hl
    exact h line hline

end LabelPress.Zpl

namespace LabelPress

open LabelPress.Text LabelPress.Zpl LabelPress.Piece

/-! ## What elements say -/

/-- What the field of the element says. -/
def Element.content (e : Element) (options : CompileOptions) : String :=
  (e.source options).data.text

theorem Element.content_of_no_field {e : Element} {dpi : Nat} (h : e.field? dpi = none)
    {options : CompileOptions} : e.content options = "" := by
  have hunbound : e.binding = .unbound := binding_eq_unbound_iff.2 (dataField?_of_no_field h)
  have hfallback : e.fallback = "" := by
    unfold field? at h
    unfold fallback
    split at h <;> simp_all
  rw [content, source_of_unbound hunbound, hfallback]
  rfl

/-- The content of an element is that of its commands. -/
theorem Element.flatMap_content_commands (e : Element) (dpi : Nat) (options : CompileOptions) :
    (e.commands dpi options).flatMap (·.content.toList) = (e.content options).toList := by
  cases hf : e.field? dpi with
  | some field =>
    have hfield := Command.content_of_data? (data?_of_field? hf (e.source options).data)
    have hreads : ((e.source options).read.toList.map Command.rfidRead).flatMap
        (·.content.toList) = [] := by
      refine flatMap_content_eq_nil fun c hc => ?_
      obtain ⟨access, -, rfl⟩ := List.mem_map.1 hc
      rfl
    rw [commands_of_field hf]
    unfold withReads
    split
    · rw [List.flatMap_append, hreads, List.flatMap_singleton, List.nil_append, hfield, content]
    · rw [List.flatMap_cons, hreads, List.append_nil, hfield, content]
  | none =>
    rw [content_of_no_field hf]
    refine flatMap_content_eq_nil fun c hc => ?_
    exact Command.content_of_isFigure (commands_of_no_field hf c hc)

/-- **The contents of a program are those of its visible elements**, in the order of printing. -/
theorem content_compileProgram (canvas : Canvas) (elements : List Element)
    (options : CompileOptions) :
    (compileProgram canvas elements options).commands.flatMap (·.content.toList) =
      (printOrder elements).flatMap fun e => (e.content options).toList := by
  have hfront : (preamble canvas ++ tagSetup options (printOrder elements)).flatMap
      (·.content.toList) = [] :=
    flatMap_content_eq_nil fun c hc => Command.content_of_isFrame (isFrame_of_mem_front hc)
  have hend : [Command.endFormat].flatMap (·.content.toList) = [] := rfl
  dsimp only [compileProgram]
  rw [List.flatMap_append, List.flatMap_append, hfront, hend, List.nil_append, List.append_nil,
    List.flatMap_assoc]
  exact List.flatMap_congr fun e _ => e.flatMap_content_commands canvas.dpi options

/-- The foreign characters of a program are those of its visible elements. -/
theorem sum_count_render {ch : Char} (h : Foreign ch) {options : CompileOptions}
    (hoptions : options.Plain) (t : Template) :
    ((t.program options).lines.map (·.toList.count ch)).sum =
      ((printOrder t.elements).map fun e => (e.content options).toList.count ch).sum := by
  have hplain := plain_compileProgram hoptions t.canvas t.elements
  have hlines : (t.program options).lines.map (·.toList.count ch) =
      (t.program options).commands.map (·.content.toList.count ch) := by
    rw [Program.lines, List.map_map]
    exact List.map_congr_left fun c hc => Command.count_render (hplain c hc) h
  have hcontent := congrArg (List.count ch) (content_compileProgram t.canvas t.elements options)
  rw [List.count_flatMap, List.count_flatMap] at hcontent
  rw [hlines]
  exact hcontent

theorem exists_line_iff {ch : Char} (h : Foreign ch) {options : CompileOptions}
    (hoptions : options.Plain) (t : Template) :
    (∃ line ∈ (t.program options).lines, ch ∈ line.toList) ↔
      ∃ e ∈ t.elements, e.frame.visible = true ∧ ch ∈ (e.content options).toList := by
  rw [← sum_count_pos_iff, sum_count_render h hoptions, sum_count_pos_iff]
  simp only [mem_printOrder, and_assoc]

/-! ## Lines -/

/-- **The document of a template splits into the lines of its commands** exactly if no visible
element says a line feed. There is a line more for each line feed that is said, and it is in the
content of a field. -/
theorem splitOn_compile (t : Template) (placeholders : Bool)
    (bitmaps : Std.TreeMap String Bitmap) :
    let options := CompileOptions.ofBitmaps placeholders bitmaps
    let p := t.program options
    let parts := List.splitOn '\n' p.document.toList
    (parts = p.lines.map String.toList ↔
        ∀ e ∈ t.elements, e.frame.visible = true → '\n' ∉ (e.content options).toList) ∧
      parts.length =
        p.size + ((printOrder t.elements).map
          fun e => (e.content options).toList.count '\n').sum ∧
      ∀ c ∈ p.commands, c.render.toList.count '\n' = c.content.toList.count '\n' := by
  intro options p parts
  have hoptions : options.Plain := CompileOptions.plain_ofBitmaps placeholders bitmaps
  have hne : p.lines ≠ [] := by simp [p, Template.program, compileProgram, Program.lines]
  refine ⟨?_, ?_, ?_⟩
  · have hiff := not_congr (exists_line_iff foreign_newline hoptions t)
    simp only [not_exists, not_and] at hiff
    exact (splitOn_joinLines_iff hne).trans hiff
  · have hlength := length_splitOn_joinLines hne
    rw [p.length_lines, sum_count_render foreign_newline hoptions] at hlength
    exact hlength
  · intro c hc
    exact Command.count_render (plain_compileProgram hoptions t.canvas t.elements c hc)
      foreign_newline

/-- A label with a line feed in its text. -/
def brokenLabel : Template where
  canvas := { width := 58, height := 40 }
  elements := [
    { frame := { id := "note", x := 5, y := 5 }
      kind := .text { content := "a\nb" } }]

/-- The text of a field takes two lines. -/
theorem splitOn_compile_broken :
    List.splitOn '\n' (brokenLabel.compile (.ofBitmaps false ∅)).toList ≠
      (brokenLabel.program (.ofBitmaps false ∅)).lines.map String.toList := by
  decide +kernel

/-! ## Tildes -/

/-- Filling brings a foreign character in exactly if the value of a placeholder has it. -/
theorem mem_substitute_iff {ch : Char} (h : Foreign ch) (document : String) (values : Variables) :
    ch ∈ (substitute document values).toList ↔
      ch ∈ outside document ∨
        ∃ name ∈ recognised document, ∃ value, values[name]? = some value ∧ ch ∈ value.toList := by
  have hescape : ∀ s, ch ∈ escapeChars s ↔ ch ∈ s := by
    intro s
    rw [← List.count_pos_iff, h.count_escapeChars, List.count_pos_iff]
  rw [substitute, toList_onChars, List.mem_flatMap]
  constructor
  · rintro ⟨p, hp, hmem⟩
    cases p with
    | char c =>
      obtain rfl := List.mem_singleton.1 hmem
      exact .inl (mem_outside_iff.2 hp)
    | hole n =>
      simp only [Piece.fill] at hmem
      split at hmem
      · rename_i value hvalue
        exact .inr ⟨_, mem_recognised_iff.2 ⟨n, hp, rfl⟩, value, hvalue, (hescape _).1 hmem⟩
      · cases hmem
  · rintro (hout | ⟨name, hname, value, hvalue, hmem⟩)
    · exact ⟨_, mem_outside_iff.1 hout, List.mem_singleton_self ch⟩
    · obtain ⟨n, hn, rfl⟩ := mem_recognised_iff.1 hname
      refine ⟨hole n, hn, ?_⟩
      simp only [Piece.fill, hvalue]
      exact (hescape _).2 hmem

/-- **Where tildes come from**: a document has one exactly if a visible element says one, and
filling a document without tildes brings one in exactly if the value of a placeholder has one. -/
theorem tilde_sources (t : Template) (placeholders : Bool) (bitmaps : Std.TreeMap String Bitmap)
    (document : String) (values : Variables) :
    let options := CompileOptions.ofBitmaps placeholders bitmaps
    ('~' ∈ (t.compile options).toList ↔
        ∃ e ∈ t.elements, e.frame.visible = true ∧ '~' ∈ (e.content options).toList) ∧
      ('~' ∉ document.toList →
        ('~' ∈ (substitute document values).toList ↔
          ∃ name ∈ recognised document, ∃ value,
            values[name]? = some value ∧ '~' ∈ value.toList)) := by
  intro options
  have hoptions : options.Plain := CompileOptions.plain_ofBitmaps placeholders bitmaps
  constructor
  · exact (mem_joinLines_iff (by decide)).trans (exists_line_iff foreign_tilde hoptions t)
  · intro hdocument
    have hout : '~' ∉ outside document := fun hmem => hdocument (outside_subset document hmem)
    rw [mem_substitute_iff foreign_tilde]
    exact or_iff_right hout

/-- A label that says a command for the printer. -/
def controlLabel : Template where
  canvas := { width := 58, height := 40 }
  elements := [
    { frame := { id := "note", x := 5, y := 5 }
      kind := .text { content := "~JA" } }]

/-- The tilde of a text and that of a value get into the document. -/
theorem tilde_sources_control :
    '~' ∈ (controlLabel.compile (.ofBitmaps false ∅)).toList ∧
      '~' ∉ "^XA\n^FD\x7b\x7bx\x7d\x7d^FS\n^XZ".toList ∧
      '~' ∈ (substitute "^XA\n^FD\x7b\x7bx\x7d\x7d^FS\n^XZ" (.ofList [("x", "~JA")])).toList := by
  decide +kernel

end LabelPress
