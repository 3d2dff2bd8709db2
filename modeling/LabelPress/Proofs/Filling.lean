import LabelPress.Proofs.Spans

/-!
# Filling a document and filling a program

A document can be filled as a text, by `substitute`, or its program can be filled before it is
printed (`Program.fill`): every placeholder becomes a literal with the value of its name.

* `Stray`: the texts of a program hold a placeholder of their own, possibly begun in one text and
  ended in another.
* `pieces_spans`: **the scanner finds what was printed**: if no name has a brace and nothing is
  stray, the placeholders it finds are those of the program.
* `not_stray`: texts without two opening braces in a row hold no placeholder, since between two
  texts there is text of the command language.
* `substitute_document`: **both ways of filling give the same document**.
-/

namespace LabelPress.Zpl

open LabelPress.Text LabelPress.Piece

/-! ## Filling a program -/

def FieldData.texts : FieldData → List String
  | .literal text => [text]
  | .placeholder _ | .fieldNumber _ => []

/-- The data with the value of its name; a name is looked up without the blanks around it, and a
name without a value leaves nothing. -/
def FieldData.fill (values : Variables) : FieldData → FieldData
  | .placeholder name => .literal (values[trim name]?.getD "")
  | .literal text => .literal text
  | .fieldNumber number => .fieldNumber number

def FieldData.placeholder? : FieldData → Option String
  | .placeholder name => some name
  | .literal _ | .fieldNumber _ => none

namespace Command

/-- The texts that a command carries besides the name of a placeholder. -/
def texts : Command → List String
  | text _ _ _ data | linearBarcode _ _ _ data | qrCode _ _ _ data => data.texts
  | graphicField _ _ fragment => [fragment]
  | rfidRead access => [access.read.format.toString]
  | rfidWrite parameters value => [parameters.format.toString, value]
  | comment remark => [remark]
  | _ => []

def placeholder? (c : Command) : Option String := c.data?.bind FieldData.placeholder?

def fill (values : Variables) : Command → Command
  | text x y font data => text x y font (data.fill values)
  | linearBarcode x y code data => linearBarcode x y code (data.fill values)
  | qrCode x y magnification data => qrCode x y magnification (data.fill values)
  | c => c

end Command

/-- The program with its placeholders filled; all other commands stay. -/
def Program.fill (values : Variables) (p : Program) : Program :=
  ⟨p.commands.map (Command.fill values)⟩

/-! ## Filling spans -/

def Span.fill (values : Variables) : Span → Span
  | hole name => own .field (values[trim name]?.getD "")
  | fixed text => fixed text
  | own writing text => own writing text

theorem FieldData.spans_fill (values : Variables) (data : FieldData) (opening closing : String) :
    (data.fill values).spans opening closing =
      (data.spans opening closing).map (Span.fill values) := by
  cases data <;> rfl

theorem Command.spans_fill (values : Variables) (c : Command) :
    (c.fill values).spans = c.spans.map (Span.fill values) := by
  cases c <;> simp [fill, spans, FieldData.spans_fill, Span.fill]

/-- A literal and a placeholder are printed the same way, so filling goes span by span. -/
theorem Program.spans_fill (values : Variables) (p : Program) :
    (p.fill values).spans = p.spans.map (Span.fill values) := by
  obtain ⟨cs⟩ := p
  cases cs with
  | nil => rfl
  | cons c cs =>
    simp [fill, spans, Command.spans_fill, List.flatMap_map, List.map_flatMap, Span.fill]

/-! ## The texts and names among the spans -/

theorem FieldData.own_mem_spans {data : FieldData} {opening closing text : String} {w : Writing}
    (h : .own w text ∈ data.spans opening closing) : text ∈ data.texts := by
  cases data <;> simp_all [spans, texts]

theorem Command.own_mem_spans {c : Command} {w : Writing} {text : String}
    (h : .own w text ∈ c.spans) : text ∈ c.texts := by
  cases c with
  | text x y font d => exact d.own_mem_spans ((List.mem_cons.1 h).resolve_left (by simp))
  | linearBarcode x y code d => exact d.own_mem_spans ((List.mem_cons.1 h).resolve_left (by simp))
  | qrCode x y m d => exact d.own_mem_spans ((List.mem_cons.1 h).resolve_left (by simp))
  | rfidWrite parameters value =>
    simp only [spans, List.mem_cons, reduceCtorEq, Span.own.injEq, false_or, List.not_mem_nil,
      or_false] at h
    simpa [texts] using h.imp And.right And.right
  | _ => simp_all [spans, texts]

def Span.name? : Span → Option String
  | hole name => some name
  | fixed _ | own _ _ => none

theorem FieldData.filterMap_name?_spans (data : FieldData) (opening closing : String) :
    (data.spans opening closing).filterMap Span.name? = data.placeholder?.toList := by
  cases data <;> rfl

theorem Command.filterMap_name?_spans (c : Command) :
    c.spans.filterMap Span.name? = c.placeholder?.toList := by
  cases c with
  | text x y font d => exact d.filterMap_name?_spans ..
  | linearBarcode x y code d => exact d.filterMap_name?_spans ..
  | qrCode x y m d => exact d.filterMap_name?_spans ..
  | _ => rfl

/-- The placeholders of a document are those of the commands, in order. -/
theorem Program.filterMap_name?_spans (p : Program) :
    p.spans.filterMap Span.name? = p.commands.filterMap Command.placeholder? := by
  have lines : ∀ cs : List Command,
      (cs.flatMap fun c => Span.fixed "\n" :: c.spans).filterMap Span.name? =
        cs.filterMap Command.placeholder? := by
    intro cs
    induction cs with
    | nil => rfl
    | cons c cs ih =>
      rw [List.flatMap_cons, List.filterMap_append, ih,
        List.filterMap_cons_none (by rfl : Span.name? (.fixed "\n") = none),
        c.filterMap_name?_spans]
      cases h : c.placeholder? <;> simp [h]
  unfold spans
  split
  · rename_i h
    simp [h]
  · rename_i c cs h
    rw [h, List.filterMap_append, lines, c.filterMap_name?_spans]
    cases h : c.placeholder? <;> simp [h]

/-! ## Stray placeholders -/

/-- What the scanner can use of a span between two placeholders: the text itself, and for text of
the command language that something without braces stands there. -/
def Span.gist : Span → List Char
  | fixed _ => [' ']
  | own _ text => text.toList
  | hole _ => []

/-- Texts that follow each other with no placeholder between them hold one of their own. -/
def Stray (L : List Span) : Prop :=
  ∃ run, run <:+: L ∧ (∀ s ∈ run, s.isHole = false) ∧ HasPlaceholder (run.flatMap Span.gist)

/-- Text of the command language has characters, and none of them is a brace. -/
def Braceless (L : List Span) : Prop :=
  ∀ text, .fixed text ∈ L → text.toList ≠ [] ∧ NoBrace text.toList

theorem Braceless.left {A B : List Span} (h : Braceless (A ++ B)) : Braceless A :=
  fun text ht => h text (List.mem_append_left B ht)

theorem Braceless.right {A B : List Span} (h : Braceless (A ++ B)) : Braceless B :=
  fun text ht => h text (List.mem_append_right A ht)

theorem Braceless.tail {s : Span} {A : List Span} (h : Braceless (s :: A)) : Braceless A :=
  fun text ht => h text (List.mem_cons_of_mem s ht)

theorem Writing.alike_write (w : Writing) (s : List Char) : Alike (w.write s) s := by
  cases w with
  | verbatim => exact .refl s
  | field => exact alike_escapeChars s
  | remark => exact alike_remark s

/-- What is printed for spans without placeholders is like their gist. -/
theorem alike_gist {A : List Span} (hA : ∀ s ∈ A, s.isHole = false) (hb : Braceless A) :
    Alike (A.flatMap Span.chars) (A.flatMap Span.gist) := by
  induction A with
  | nil => exact .refl []
  | cons s A ih =>
    rw [List.forall_mem_cons] at hA
    rw [List.flatMap_cons, List.flatMap_cons]
    refine .append ?_ (ih hA.2 hb.tail)
    cases s with
    | fixed text =>
      obtain ⟨hne, ht⟩ := hb text (by simp)
      exact alike_of_noBrace ht hne (v := [' ']) (by decide) (by decide)
    | own w text => exact w.alike_write _
    | hole name => exact absurd hA.1 (by simp [Span.isHole])

/-- A list that lacks `x` is a part of one side of `x` or of the other. -/
theorem infix_of_infix_append_cons {α : Type} {x : α} {r a b : List α} (hx : x ∉ r)
    (h : r <:+: a ++ x :: b) : r <:+: a ∨ r <:+: b := by
  obtain ⟨s, t, h⟩ := h
  rcases List.append_eq_append_iff.1 h with ⟨c, rfl, -⟩ | ⟨c, hc, hb⟩
  · exact .inl ⟨s, c, rfl⟩
  · cases c with
    | nil => exact .inl ⟨s, [], by simpa using hc⟩
    | cons y c =>
      obtain ⟨rfl, rfl⟩ := List.cons.inj hb
      rcases List.append_eq_append_iff.1 hc with ⟨d, -, rfl⟩ | ⟨d, -, hd⟩
      · exact absurd (List.mem_append_right d List.mem_cons_self) hx
      · cases d with
        | nil =>
          subst hd
          exact absurd List.mem_cons_self hx
        | cons z d =>
          obtain ⟨-, rfl⟩ := List.cons.inj hd
          exact .inr ⟨d, t, rfl⟩

/-- A placeholder of the program parts its texts. -/
theorem stray_append_hole {A L : List Span} {name : String} :
    Stray (A ++ .hole name :: L) ↔ Stray A ∨ Stray L := by
  constructor
  · rintro ⟨run, hrun, hh, hp⟩
    have hn : .hole name ∉ run := fun h => absurd (hh _ h) (by simp [Span.isHole])
    exact (infix_of_infix_append_cons hn hrun).imp (⟨run, ·, hh, hp⟩) (⟨run, ·, hh, hp⟩)
  · rintro (⟨run, hrun, h⟩ | ⟨run, hrun, h⟩)
    · exact ⟨run, List.infix_append_of_infix_left hrun, h⟩
    · exact ⟨run, List.infix_append_of_infix_right (List.infix_cons hrun), h⟩

/-- Among spans without placeholders, stray means that what is printed has one. -/
theorem stray_iff_of_no_hole {A : List Span} (hA : ∀ s ∈ A, s.isHole = false)
    (hb : Braceless A) : Stray A ↔ HasPlaceholder (A.flatMap Span.chars) := by
  rw [(alike_gist hA hb).hasPlaceholder_iff]
  constructor
  · rintro ⟨run, ⟨B, C, rfl⟩, -, hp⟩
    refine hp.mono ?_
    simp only [List.flatMap_append]
    exact List.infix_append ..
  · exact fun hp => ⟨A, List.infix_refl A, hA, hp⟩

/-- Spans can be taken a placeholder at a time: first what is before it, then what follows. -/
theorem hole_induction {motive : List Span → Prop}
    (texts : ∀ A, (∀ s ∈ A, s.isHole = false) → motive A)
    (hole : ∀ A name L, (∀ s ∈ A, s.isHole = false) → motive L → motive (A ++ .hole name :: L))
    (L : List Span) : motive L := by
  have go : ∀ L A, (∀ s ∈ A, s.isHole = false) → motive (A ++ L) := by
    intro L
    induction L with
    | nil => exact fun A hA => by simpa using texts A hA
    | cons s L ih =>
      intro A hA
      cases hs : s.isHole with
      | false =>
        have := ih (A ++ [s]) (List.forall_mem_append.2 ⟨hA, by simpa using hs⟩)
        simpa using this
      | true =>
        cases s with
        | hole name => exact hole A name L hA (by simpa using ih [] (by simp))
        | fixed text => cases hs
        | own w text => cases hs
  exact go L [] (by simp)

/-! ## What the scanner finds -/

def Span.pieces : Span → List Piece
  | hole name => [.hole name.toList]
  | fixed text => (fixed text).chars.map .char
  | own w text => (own w text).chars.map .char

theorem Span.pieces_of_no_hole {A : List Span} (hA : ∀ s ∈ A, s.isHole = false) :
    A.flatMap Span.pieces = (A.flatMap Span.chars).map .char := by
  induction A with
  | nil => rfl
  | cons s A ih =>
    rw [List.forall_mem_cons] at hA
    rw [List.flatMap_cons, List.flatMap_cons, List.map_append, ih hA.2]
    cases s with
    | fixed text => rfl
    | own w text => rfl
    | hole name => exact absurd hA.1 (by simp [isHole])

/-- **The scanner finds what was printed**, if every name can be read back and the texts hold no
placeholder of their own. -/
theorem pieces_spans {L : List Span} (hb : Braceless L)
    (hnames : ∀ name, .hole name ∈ L → IsName name.toList) (hs : ¬ Stray L) :
    Piece.pieces (L.flatMap Span.chars) = L.flatMap Span.pieces := by
  induction L using hole_induction with
  | texts A hA =>
    rw [stray_iff_of_no_hole hA hb] at hs
    rw [pieces_eq_map_char hs, Span.pieces_of_no_hole hA]
  | hole A name L hA ih =>
    rw [stray_append_hole, not_or, stray_iff_of_no_hole hA hb.left] at hs
    have hL := ih hb.right.tail (fun n h => hnames n (by simp [h])) hs.2
    rw [List.flatMap_append, List.flatMap_cons, Span.chars,
      pieces_append_source (hnames name (by simp)), pieces_eq_map_char hs.1, hL,
      List.flatMap_append, Span.pieces_of_no_hole hA]
    rfl

theorem Span.flatMap_fill_pieces (values : Variables) (s : Span) :
    s.pieces.flatMap (Piece.fill values) = (s.fill values).chars := by
  have keep : ∀ t : List Char, (t.map Piece.char).flatMap (Piece.fill values) = t := fun t => by
    simp [List.flatMap_map, Piece.fill]
  cases s with
  | fixed text => exact keep _
  | own w text => exact keep _
  | hole name =>
    simp only [pieces, List.flatMap_singleton, Piece.fill, fill, chars, Writing.write, trim,
      onChars]
    cases values[String.ofList (trimChars name.toList)]? <;> rfl

/-! ## Texts without two opening braces -/

theorem opening_of_hasPlaceholder {s : List Char} (h : HasPlaceholder s) : ['{', '{'] <:+: s := by
  obtain ⟨name, -, a, b, rfl⟩ := h
  exact ⟨a, name ++ ['}', '}'] ++ b, by simp [source]⟩

/-- If no text has two opening braces in a row, then no two meet: the texts are apart. -/
theorem not_opening_gist {run : List Span} (hc : run.IsChain Span.Apart)
    (ht : ∀ w text, .own w text ∈ run → ¬ ['{', '{'] <:+: text.toList) :
    ¬ ['{', '{'] <:+: run.flatMap Span.gist := by
  induction run with
  | nil => simp
  | cons s run ih =>
    have ih := ih hc.tail fun w text h => ht w text (List.mem_cons_of_mem s h)
    cases s with
    | fixed text =>
      intro h
      have h : ['{', '{'] <:+: [] ++ ' ' :: run.flatMap Span.gist := by simpa [Span.gist] using h
      exact (infix_of_infix_append_cons (by decide) h).elim (by simp) ih
    | hole name => simpa [Span.gist] using ih
    | own w text =>
      have htext := ht w text (by simp)
      cases run with
      | nil => simpa [Span.gist] using htext
      | cons t run =>
        cases t with
        | fixed t =>
          intro h
          have hown : Span.gist (.own w text) = text.toList := rfl
          have hfixed : Span.gist (.fixed t) = [' '] := rfl
          rw [List.flatMap_cons, List.flatMap_cons, hown, hfixed, List.singleton_append] at h
          rw [List.flatMap_cons, hfixed, List.singleton_append] at ih
          rcases infix_of_infix_append_cons (by decide) h with h | h
          · exact htext h
          · exact ih (List.infix_cons h)
        | own w' t => exact absurd hc (by simp [Span.Apart, Span.isFixed])
        | hole name => exact absurd hc (by simp [Span.Apart, Span.isFixed])

/-- **Texts without two opening braces in a row are never read as a placeholder.** -/
theorem Program.not_stray {p : Program}
    (htexts : ∀ c ∈ p.commands, ∀ text ∈ c.texts, ¬ ['{', '{'] <:+: text.toList) :
    ¬ Stray p.spans := by
  rintro ⟨run, hrun, -, hp⟩
  have hc := List.IsChain.infix p.isChain_spans hrun
  refine not_opening_gist hc (fun w text h => ?_) (opening_of_hasPlaceholder hp)
  rcases p.mem_spans (hrun.subset h) with h | ⟨c, hc, h⟩
  · cases h
  · exact htexts c hc text (c.own_mem_spans h)

/-! ## Both ways of filling -/

theorem Program.isName_of_hole {p : Program}
    (hnames : ∀ c ∈ p.commands, ∀ name, c.placeholder? = some name → IsName name.toList) :
    ∀ name, .hole name ∈ p.spans → IsName name.toList := by
  intro name h
  have h : name ∈ p.spans.filterMap Span.name? := List.mem_filterMap.2 ⟨_, h, rfl⟩
  rw [p.filterMap_name?_spans] at h
  obtain ⟨c, hc, hname⟩ := List.mem_filterMap.1 h
  exact hnames c hc name hname

/-- Filling the text fills the program, if every name can be read back and nothing is stray. -/
theorem Program.substitute_document_of_not_stray {p : Program}
    (hnames : ∀ c ∈ p.commands, ∀ name, c.placeholder? = some name → IsName name.toList)
    (hs : ¬ Stray p.spans) (values : Variables) :
    substitute p.document values = (p.fill values).document := by
  have hpieces := pieces_spans (fun _ => p.noBrace_of_fixed) (p.isName_of_hole hnames) hs
  rw [← String.toList_inj, substitute, onChars, String.toList_ofList, p.toList_document, hpieces,
    (p.fill values).toList_document, p.spans_fill, List.flatMap_map, List.flatMap_assoc]
  exact List.flatMap_congr fun s _ => s.flatMap_fill_pieces values

/-- **Filling the text of a document is the same as filling its program**, whatever the values, if
every placeholder has a name without braces and no other text has two opening braces in a row. -/
theorem Program.substitute_document (p : Program) (values : Variables)
    (hnames : ∀ c ∈ p.commands, ∀ name, c.placeholder? = some name →
      name ≠ "" ∧ '{' ∉ name.toList ∧ '}' ∉ name.toList)
    (htexts : ∀ c ∈ p.commands, ∀ text ∈ c.texts, ¬ ['{', '{'] <:+: text.toList) :
    substitute p.document values = (p.fill values).document := by
  refine p.substitute_document_of_not_stray (fun c hc name h => ?_) (p.not_stray htexts) values
  obtain ⟨hne, hbraces⟩ := hnames c hc name h
  exact ⟨by simpa using hne, noBrace_iff.2 hbraces⟩

/-- A label with a text that opens a brace, a text to be filled and a code to be filled. -/
def braceLabel : Program :=
  ⟨[.startFormat, .text 8 30 ⟨.builtIn, .normal, 34, 20⟩ (.literal "a\x7bb"),
    .text 8 60 ⟨.builtIn, .normal, 34, 20⟩ (.placeholder " who "),
    .qrCode 8 90 4 (.placeholder "url"), .endFormat]⟩

theorem Program.substitute_document_braceLabel :
    (∀ c ∈ braceLabel.commands, ∀ name, c.placeholder? = some name →
      name ≠ "" ∧ '{' ∉ name.toList ∧ '}' ∉ name.toList) ∧
    (∀ c ∈ braceLabel.commands, ∀ text ∈ c.texts, ¬ ['{', '{'] <:+: text.toList) ∧
    substitute braceLabel.document (.ofList [("who", "x^y")]) =
      "^XA\n^FT8,30^A0N,34,20^FH\\^CI28^FDa\x7bb^FS^CI27\n" ++
      "^FT8,60^A0N,34,20^FH\\^CI28^FDx_y^FS^CI27\n^FO8,90^BQN,2,4,Q^FDQA,^FS\n^XZ" := by
  have hnames : ∀ c ∈ braceLabel.commands, ∀ name, c.placeholder? = some name →
      name ≠ "" ∧ '{' ∉ name.toList ∧ '}' ∉ name.toList := by
    simp [braceLabel, Command.placeholder?, Command.data?, FieldData.placeholder?]
  have htexts : ∀ c ∈ braceLabel.commands, ∀ text ∈ c.texts, ¬ ['{', '{'] <:+: text.toList := by
    decide
  refine ⟨hnames, htexts, ?_⟩
  rw [substitute_document braceLabel _ hnames htexts]
  decide +kernel

end LabelPress.Zpl
