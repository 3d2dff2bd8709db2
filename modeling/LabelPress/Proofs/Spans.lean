import LabelPress.Proofs.Scanning
import LabelPress.Zpl.Command
import Mathlib.Algebra.GroupWithZero.Nat
import Mathlib.Data.List.Chain

/-!
# What the lines of a document are made of

`Command.render` writes a line in one go. Here the same line is a list of spans
(`Command.spans`): text of the command language, which is the same for every label up to numbers
and letters from fixed sets, a text that the command carries, or the name of a placeholder.

* `Command.toList_render`, `Program.toList_document`: the spans, one after the other, are the line
  and the document.
* `Command.inLanguage_spans`: text of the command language is not empty and keeps to the alphabet
  `isCommandChar`; so it has no brace, no tilde and no line break.
* `Program.isChain_spans`: between two texts, or a text and a placeholder, there is always text of
  the command language.
-/

namespace LabelPress.Zpl

open LabelPress.Text LabelPress.Piece

/-! ## Spans -/

/-- How a text gets onto a line: as it is, escaped as the data of a field, or escaped and cleaned
as a remark. -/
inductive Writing where
  | verbatim
  | field
  | remark
deriving DecidableEq

def Writing.write : Writing → List Char → List Char
  | verbatim, s => s
  | field, s => escapeChars s
  | remark, s => (escapeChars s).map remarkChar

/-- A part of a line: text of the command language, a text that the command carries, or a
placeholder. -/
inductive Span where
  | fixed (text : String)
  | own (writing : Writing) (text : String)
  | hole (name : String)
deriving DecidableEq

namespace Span

def chars : Span → List Char
  | fixed text => text.toList
  | own writing text => writing.write text.toList
  | hole name => (Piece.hole name.toList).source

def isFixed : Span → Bool
  | fixed _ => true
  | own _ _ | hole _ => false

def isHole : Span → Bool
  | hole _ => true
  | fixed _ | own _ _ => false

end Span

/-- The data of a field; a field number takes the place of the opening and the closing as well. -/
def FieldData.spans (opening closing : String) : FieldData → List Span
  | .fieldNumber number => [.fixed (Zpl.fieldNumber number ++ fieldEnd)]
  | .placeholder name => [.fixed opening, .hole name, .fixed closing]
  | .literal text => [.fixed opening, .own .field text, .fixed closing]

/-- The line of a command in its parts. -/
def Command.spans : Command → List Span
  | .text x y font data =>
    .fixed (fieldTypeset x y ++ font.render) :: data.spans "^FH\\^CI28^FD" "^FS^CI27"
  | .linearBarcode x y code data =>
    .fixed (fieldOrigin x y ++ moduleWidth ++ code.render) :: data.spans "^FD" fieldEnd
  | .qrCode x y magnification data =>
    .fixed (fieldOrigin x y ++ Zpl.qrCode magnification) ::
      data.spans ("^FD" ++ qrDataMode) fieldEnd
  | .graphicField x y fragment =>
    [.fixed (fieldOrigin x y ++ "^GFA,"), .own .verbatim fragment, .fixed fieldEnd]
  | .rfidRead access =>
    [.fixed ("^FN" ++ toString access.fieldNumber.toNat ++ "^RFR,"),
     .own .verbatim access.read.format.toString,
     .fixed ("," ++ toString access.read.start.toNat ++ "," ++ toString access.read.length.toNat
       ++ "," ++ toString access.read.bank.toNat ++ "^FS")]
  | .rfidWrite parameters value =>
    [.fixed "^RFW,", .own .verbatim parameters.format.toString,
     .fixed ("," ++ toString parameters.start.toNat ++ ","
       ++ toString (parameters.length.forValue value).toNat
       ++ (match parameters.bank with
         | some bank => "," ++ toString bank.toNat
         | none => "")
       ++ "^FD"),
     .own .verbatim value, .fixed "^FS"]
  | .comment remark => [.fixed "^FX", .own .remark remark, .fixed "^FS"]
  | command => [.fixed command.render]

theorem FieldData.toList_textPayload (data : FieldData) :
    (Command.textPayload data).toList =
      (data.spans "^FH\\^CI28^FD" "^FS^CI27").flatMap Span.chars := by
  cases data <;>
    simp [Command.textPayload, spans, Span.chars, Writing.write, braced, escape, source]

theorem FieldData.toList_barcodePayload (mode : String) (data : FieldData) :
    (Command.barcodePayload mode data).toList =
      (data.spans ("^FD" ++ mode) fieldEnd).flatMap Span.chars := by
  cases data <;>
    simp [Command.barcodePayload, spans, Span.chars, Writing.write, braced, escape, source]

/-- **A line is its spans**, one after the other. -/
theorem Command.toList_render (c : Command) : c.render.toList = c.spans.flatMap Span.chars := by
  cases c with
  | text x y font data => simp [render, spans, FieldData.toList_textPayload, Span.chars]
  | linearBarcode x y code data =>
    have h := FieldData.toList_barcodePayload "" data
    simp [render, spans, h, Span.chars]
  | qrCode x y magnification data =>
    simp [render, spans, FieldData.toList_barcodePayload, Span.chars]
  | graphicField x y fragment =>
    simp [render, spans, Span.chars, Writing.write, Zpl.graphicField]
  | rfidRead access =>
    simp [render, spans, Span.chars, Writing.write, readTag, ReadParameters.render]
  | rfidWrite parameters value =>
    cases h : parameters.bank <;>
      simp [render, spans, Span.chars, Writing.write, writeTag, WriteParameters.render, h]
  | comment remark => simp [render, spans, Span.chars, Writing.write, Zpl.comment]
  | _ => simp [spans, Span.chars]

/-- The document in its parts: the spans of the lines, and a line feed between lines. -/
def Program.spans (p : Program) : List Span :=
  match p.commands with
  | [] => []
  | c :: cs => c.spans ++ cs.flatMap fun c => .fixed "\n" :: c.spans

theorem toList_onNewLines (lines : List String) :
    (onNewLines lines).toList = lines.flatMap fun line => '\n' :: line.toList := by
  induction lines with
  | nil => rfl
  | cons line lines ih => simp [onNewLines, ih]

theorem count_flatMap_congr {α : Type} {c : Char} {l : List α} {f g : α → List Char}
    (h : ∀ a ∈ l, (f a).count c = (g a).count c) :
    (l.flatMap f).count c = (l.flatMap g).count c := by
  rw [List.count_flatMap, List.count_flatMap]
  exact congrArg List.sum (List.map_congr_left h)

/-- Joining lines adds line feeds only. -/
theorem count_joinLines {c : Char} (h : c ≠ '\n') (lines : List String) :
    (joinLines lines).toList.count c = (lines.map (·.toList.count c)).sum := by
  have hrest : ∀ ls : List String,
      (onNewLines ls).toList.count c = (ls.map (·.toList.count c)).sum := by
    intro ls
    rw [toList_onNewLines, List.count_flatMap]
    refine congrArg List.sum (List.map_congr_left fun l _ => ?_)
    exact List.count_cons_of_ne h.symm
  cases lines with
  | nil => rfl
  | cons l ls =>
    rw [joinLines, String.toList_append, List.count_append, hrest]
    rfl

/-- It adds one less than there are lines. -/
theorem count_newline_joinLines {lines : List String} (hne : lines ≠ []) :
    (joinLines lines).toList.count '\n' + 1 =
      lines.length + (lines.map (·.toList.count '\n')).sum := by
  have hrest : ∀ ls : List String, (onNewLines ls).toList.count '\n' =
      ls.length + (ls.map (·.toList.count '\n')).sum := by
    intro ls
    induction ls with
    | nil => rfl
    | cons l ls ih =>
      rw [onNewLines, String.toList_append, String.toList_append, List.count_append,
        List.count_append, ih, List.length_cons, List.map_cons, List.sum_cons]
      have hfeed : "\n".toList.count '\n' = 1 := rfl
      omega
  obtain ⟨l, ls, rfl⟩ := List.exists_cons_of_ne_nil hne
  rw [joinLines, String.toList_append, List.count_append, hrest, List.length_cons, List.map_cons,
    List.sum_cons]
  omega

/-- **A document is its spans**, one after the other. -/
theorem Program.toList_document (p : Program) : p.document.toList = p.spans.flatMap Span.chars := by
  unfold Program.document Program.lines Program.spans
  cases p.commands with
  | nil => rfl
  | cons c cs =>
    simp [joinLines, toList_onNewLines, Command.toList_render, List.flatMap_map,
      List.flatMap_assoc, Span.chars]

/-! ## The alphabet of the command language -/

/-- The characters of which commands are made: letters, digits and a few marks. -/
def isCommandChar (c : Char) : Bool :=
  c.isAlphanum || c ∈ ['^', ',', '-', '@', '.', '_', '\\']

theorem isNameChar_of_isCommandChar {c : Char} (h : isCommandChar c = true) :
    isNameChar c = true := by
  rw [isNameChar_iff]
  constructor <;> rintro rfl <;> exact absurd h (by decide)

def InAlphabet (s : String) : Prop := ∀ c ∈ s.toList, isCommandChar c = true

instance (s : String) : Decidable (InAlphabet s) :=
  decidable_of_iff (s.toList.all isCommandChar = true) List.all_eq_true

@[simp] theorem inAlphabet_append {s t : String} :
    InAlphabet (s ++ t) ↔ InAlphabet s ∧ InAlphabet t := by
  simp only [InAlphabet, String.toList_append, List.mem_append, or_imp, forall_and]

@[simp] theorem inAlphabet_push {s : String} {c : Char} :
    InAlphabet (s.push c) ↔ InAlphabet s ∧ isCommandChar c = true := by
  simp [InAlphabet, or_imp, forall_and]

@[simp] theorem inAlphabet_singleton {c : Char} :
    InAlphabet (String.singleton c) ↔ isCommandChar c = true := by
  simp [InAlphabet]

@[simp] theorem inAlphabet_nat (n : Nat) : InAlphabet n.repr := by
  intro c hc
  rw [Nat.toList_repr] at hc
  have h := Nat.isDigit_of_mem_toDigits (by decide) (by decide) hc
  simp [isCommandChar, Char.isAlphanum, h]

@[simp] theorem inAlphabet_int (n : Int) : InAlphabet n.repr := by
  rw [Int.repr_eq_if]
  split <;> simp +decide

@[simp] theorem isCommandChar_orientation (o : Orientation) : isCommandChar o.code = true := by
  cases o <;> decide

@[simp] theorem isCommandChar_slope (slope : Slope) : isCommandChar slope.code = true := by
  cases slope <;> decide

@[simp] theorem inAlphabet_font (font : Font) : InAlphabet font.render := by
  unfold Font.render
  cases font.face <;> simp +decide [FontFace.fileName?]

@[simp] theorem inAlphabet_code (code : LinearBarcode) : InAlphabet code.render := by
  unfold LinearBarcode.render
  cases code.symbology <;> simp +decide

@[simp] theorem inAlphabet_graphicBox (width height thickness rounding : Int) :
    InAlphabet (graphicBox width height thickness rounding) := by
  unfold graphicBox
  split <;> simp +decide

@[simp] theorem inAlphabet_fieldOrigin (x y : Int) : InAlphabet (Command.fieldOrigin x y) := by
  simp +decide [Command.fieldOrigin]

/-- Text of the command language is not empty and keeps to the alphabet. -/
def Span.InLanguage : Span → Prop
  | fixed text => text ≠ "" ∧ InAlphabet text
  | own _ _ | hole _ => True

theorem FieldData.inLanguage_spans {opening closing : String} (data : FieldData)
    (ho : opening ≠ "" ∧ InAlphabet opening) (hc : closing ≠ "" ∧ InAlphabet closing) :
    ∀ s ∈ data.spans opening closing, s.InLanguage := by
  cases data <;> simp +decide [spans, Span.InLanguage, ho, hc, Zpl.fieldNumber, fieldEnd]

/-- **Every line keeps to the alphabet** outside the texts and placeholders of its command. -/
theorem Command.inLanguage_spans (c : Command) : ∀ s ∈ c.spans, s.InLanguage := by
  cases c with
  | text x y font d =>
    have hd : ∀ s ∈ d.spans "^FH\\^CI28^FD" "^FS^CI27", s.InLanguage :=
      d.inLanguage_spans (by decide) (by decide)
    refine List.forall_mem_cons.2 ⟨?_, hd⟩
    simp +decide [Span.InLanguage, fieldTypeset]
  | linearBarcode x y code d =>
    have hd : ∀ s ∈ d.spans "^FD" fieldEnd, s.InLanguage :=
      d.inLanguage_spans (by decide) (by decide)
    refine List.forall_mem_cons.2 ⟨?_, hd⟩
    simp +decide [Span.InLanguage, moduleWidth]
  | qrCode x y magnification d =>
    have hd : ∀ s ∈ d.spans ("^FD" ++ qrDataMode) fieldEnd, s.InLanguage :=
      d.inLanguage_spans (by decide) (by decide)
    refine List.forall_mem_cons.2 ⟨?_, hd⟩
    simp +decide [Span.InLanguage, Zpl.qrCode]
  | rfidWrite parameters value =>
    cases h : parameters.bank <;> simp +decide [spans, Span.InLanguage, h]
  | box x y width height thickness rounding =>
    simp +decide [spans, Span.InLanguage, render, fieldEnd]
  | _ =>
    simp +decide [spans, Span.InLanguage, render, fieldEnd, Zpl.rfidSetup, graphicEllipse,
      graphicDiagonal]

/-! ## The order of spans -/

/-- One of two neighbours is text of the command language. -/
def Span.Apart (a b : Span) : Prop := a.isFixed = true ∨ b.isFixed = true

theorem FieldData.isChain_spans (data : FieldData) (opening closing text : String) :
    (Span.fixed text :: data.spans opening closing).IsChain Span.Apart := by
  cases data <;> simp [spans, Span.Apart, Span.isFixed]

/-- A line has text of the command language between any two other spans. -/
theorem Command.isChain_spans (c : Command) : c.spans.IsChain Span.Apart := by
  cases c with
  | text x y font d => exact d.isChain_spans ..
  | linearBarcode x y code d => exact d.isChain_spans ..
  | qrCode x y magnification d => exact d.isChain_spans ..
  | _ => simp [spans, Span.Apart, Span.isFixed]

theorem Program.mem_spans {p : Program} {s : Span} (h : s ∈ p.spans) :
    s = .fixed "\n" ∨ ∃ c ∈ p.commands, s ∈ c.spans := by
  unfold spans at h
  split at h
  · simp at h
  · rename_i c cs hcs
    rw [hcs]
    simp only [List.mem_append, List.mem_flatMap, List.mem_cons] at h
    rcases h with h | ⟨d, hd, h | h⟩
    · exact .inr ⟨c, by simp, h⟩
    · exact .inl h
    · exact .inr ⟨d, by simp [hd], h⟩

/-- Between texts and placeholders a document has characters, and none of them is a brace. -/
theorem Program.noBrace_of_fixed {p : Program} {text : String} (h : .fixed text ∈ p.spans) :
    text.toList ≠ [] ∧ NoBrace text.toList := by
  rcases p.mem_spans h with h | ⟨c, -, h⟩
  · obtain rfl := Span.fixed.inj h
    decide
  · obtain ⟨hne, ht⟩ := c.inLanguage_spans _ h
    exact ⟨by simpa using hne, fun d hd => isNameChar_of_isCommandChar (ht d hd)⟩

/-- In a document, any two texts or placeholders are apart. -/
theorem Program.isChain_spans (p : Program) : p.spans.IsChain Span.Apart := by
  have head : ∀ cs : List Command,
      ∀ s ∈ (cs.flatMap fun c => Span.fixed "\n" :: c.spans).head?, s.isFixed = true := by
    intro cs s hs
    cases cs with
    | nil => simp at hs
    | cons c cs => simp at hs; subst hs; rfl
  have lines : ∀ cs : List Command,
      (cs.flatMap fun c => Span.fixed "\n" :: c.spans).IsChain Span.Apart := by
    intro cs
    induction cs with
    | nil => exact .nil
    | cons c cs ih =>
      rw [List.flatMap_cons]
      have hline : (Span.fixed "\n" :: c.spans).IsChain Span.Apart :=
        c.isChain_spans.cons fun _ _ => .inl rfl
      exact .append hline ih fun _ _ s hs => .inr (head cs s hs)
  unfold spans
  split
  · exact .nil
  · rename_i c cs _
    exact .append c.isChain_spans (lines cs) fun _ _ s hs => .inr (head cs s hs)

end LabelPress.Zpl
