import LabelPress.Proofs.Variables

/-!
# Which placeholders a document is read with

A document is filled as a text, so what is filled are the placeholders that the scanner finds there
(`recognised`), not those of the program. This file says when the two are the same.

* `count_fill`: a placeholder that is found takes two opening braces with it, so the braces that
  stay tell how many are found.
* `not_stray_of_length`: if no more placeholders are found than were printed, nothing is stray.
* `placeholders_exact_iff`: **the scanner finds the variables of a template, and filling changes
  nothing else**, exactly if no variable has a brace in its name and no text of the template holds
  a placeholder of its own.
* `placeholders_not_exact`: a fixed text that is taken for a placeholder, and a variable that is
  never found.
-/

namespace LabelPress

open LabelPress.Text LabelPress.Zpl LabelPress.Piece

/-- The names that are looked up when the document is filled, in order. -/
def recognised (document : String) : List String :=
  (names document.toList).map fun name => String.ofList (trimChars name)

theorem mem_recognised_iff {document name : String} :
    name ∈ recognised document ↔
      ∃ n, hole n ∈ pieces document.toList ∧ String.ofList (trimChars n) = name := by
  rw [recognised, List.mem_map]
  constructor
  · rintro ⟨n, hn, rfl⟩
    obtain ⟨piece, hpiece, hname⟩ := List.mem_filterMap.1 hn
    cases piece with
    | char c => cases hname
    | hole m =>
      obtain rfl := Option.some.inj hname
      exact ⟨m, hpiece, rfl⟩
  · rintro ⟨n, hn, rfl⟩
    exact ⟨n, List.mem_filterMap.2 ⟨_, hn, rfl⟩, rfl⟩

/-! ## Counting braces -/

/-- Filling without values drops the placeholders; each takes two opening braces with it. -/
theorem count_fill (ps : List Piece) (h : ∀ name, hole name ∈ ps → IsName name) :
    (ps.flatMap (Piece.fill ∅)).count '{' + 2 * (ps.filterMap name?).length =
      (ps.flatMap source).count '{' := by
  induction ps with
  | nil => rfl
  | cons p ps ih =>
    have ih := ih fun name hn => h name (List.mem_cons_of_mem p hn)
    rw [List.flatMap_cons, List.flatMap_cons, List.count_append, List.count_append, ← ih]
    cases p with
    | char c =>
      rw [List.filterMap_cons_none (by rfl)]
      simp only [Piece.fill, source]
      omega
    | hole name =>
      have hname : name.count '{' = 0 := by
        rw [List.count_eq_zero]
        exact (noBrace_iff.1 (h name (by simp)).2).1
      have hfill : Piece.fill ∅ (hole name) = [] := by simp [Piece.fill]
      rw [List.filterMap_cons_some (by rfl), hfill]
      simp only [source, List.cons_append, List.count_cons, List.count_append, hname,
        List.count_nil, List.length_cons]
      simp
      omega

end LabelPress

namespace LabelPress.Zpl

open LabelPress.Piece

theorem Span.flatMap_source_pieces (s : Span) : s.pieces.flatMap source = s.chars := by
  have keep : ∀ t : List Char, (t.map Piece.char).flatMap source = t := fun t => by
    simp [List.flatMap_map, source]
  cases s with
  | fixed text => exact keep _
  | own w text => exact keep _
  | hole name => simp [pieces, chars]

theorem Span.filterMap_name?_pieces (s : Span) :
    s.pieces.filterMap Piece.name? = (s.name?.map String.toList).toList := by
  have keep : ∀ t : List Char, (t.map Piece.char).filterMap Piece.name? = [] := fun t => by
    rw [List.filterMap_map]
    exact List.filterMap_eq_nil_iff.2 fun _ _ => rfl
  cases s with
  | fixed text => exact keep _
  | own w text => exact keep _
  | hole name => rfl

theorem filterMap_name?_pieces (L : List Span) :
    (L.flatMap Span.pieces).filterMap Piece.name? =
      (L.filterMap Span.name?).map String.toList := by
  induction L with
  | nil => rfl
  | cons s L ih =>
    rw [List.flatMap_cons, List.filterMap_append, ih, s.filterMap_name?_pieces]
    cases h : s.name? <;> simp [h]

/-- The scanner finds every placeholder that was printed; if it finds no more, nothing is stray. -/
theorem not_stray_of_length {L : List Span} (hb : Braceless L)
    (hnames : ∀ name, .hole name ∈ L → IsName name.toList) :
    (L.filterMap Span.name?).length ≤ (names (L.flatMap Span.chars)).length ∧
      ((names (L.flatMap Span.chars)).length ≤ (L.filterMap Span.name?).length → ¬ Stray L) := by
  have hnone : ∀ A : List Span, (∀ s ∈ A, s.isHole = false) → A.filterMap Span.name? = [] :=
    fun A hA => List.filterMap_eq_nil_iff.2 fun s hs => by
      cases s with
      | fixed text => rfl
      | own w text => rfl
      | hole name => exact absurd (hA _ hs) (by simp [Span.isHole])
  induction L using hole_induction with
  | texts A hA =>
    rw [hnone A hA, stray_iff_of_no_hole hA hb]
    refine ⟨Nat.zero_le _, fun h hp => names_ne_nil hp ?_⟩
    exact List.length_eq_zero_iff.1 (Nat.le_zero.1 h)
  | hole A name L hA ih =>
    obtain ⟨hle, hstray⟩ := ih hb.right.tail fun n h => hnames n (by simp [h])
    rw [List.flatMap_append, List.flatMap_cons, Span.chars,
      names_append_source (hnames name (by simp)), List.filterMap_append, hnone A hA,
      List.filterMap_cons_some (by rfl : Span.name? (.hole name) = some name), stray_append_hole,
      stray_iff_of_no_hole hA hb.left]
    simp only [List.length_append, List.length_cons, List.nil_append]
    refine ⟨by omega, fun h => ?_⟩
    rintro (hp | hp)
    · have := List.length_pos_iff.2 (names_ne_nil hp)
      omega
    · exact hstray (by omega) hp

end LabelPress.Zpl

namespace LabelPress

open LabelPress.Text LabelPress.Zpl LabelPress.Piece

/-! ## Filling the text and filling the program -/

/-- If every name can be read back, filling the text is filling the program exactly if nothing is
stray. -/
theorem Zpl.Program.substitute_eq_fill_iff {p : Program}
    (hnames : ∀ c ∈ p.commands, ∀ name, c.placeholder? = some name → IsName name.toList) :
    (∀ values, substitute p.document values = (p.fill values).document) ↔ ¬ Stray p.spans := by
  refine ⟨fun h => ?_, p.substitute_document_of_not_stray hnames⟩
  have hread := p.isName_of_hole hnames
  refine (not_stray_of_length (fun _ => p.noBrace_of_fixed) hread).2 (Nat.le_of_eq ?_)
  -- the same characters stay in both ways of filling without values
  have hstay : (pieces p.document.toList).flatMap (Piece.fill ∅) =
      (p.spans.flatMap Span.pieces).flatMap (Piece.fill ∅) := by
    have := congrArg String.toList (h ∅)
    rw [substitute, onChars, String.toList_ofList, (p.fill ∅).toList_document, p.spans_fill,
      List.flatMap_map] at this
    rw [this, List.flatMap_assoc]
    exact List.flatMap_congr fun s _ => (s.flatMap_fill_pieces ∅).symm
  have hfound := count_fill (pieces p.document.toList) fun _ => isName_of_mem_pieces
  have hprinted := count_fill (p.spans.flatMap Span.pieces) fun name hn => by
    obtain ⟨s, hs, hn⟩ := List.mem_flatMap.1 hn
    cases s with
    | fixed text => simp [Span.pieces] at hn
    | own w text => simp [Span.pieces] at hn
    | hole n =>
      obtain rfl : name = n.toList := by simpa [Span.pieces] using hn
      exact hread n hs
  have hsource : (p.spans.flatMap Span.pieces).flatMap source = p.document.toList := by
    rw [p.toList_document, List.flatMap_assoc]
    exact List.flatMap_congr fun s _ => s.flatMap_source_pieces
  rw [flatMap_source_pieces, hstay] at hfound
  rw [hsource, filterMap_name?_pieces, List.length_map] at hprinted
  rw [← p.toList_document, names]
  omega

/-- What is looked up has no brace, so a name with a brace is never found. -/
theorem noBrace_of_mem_recognised {document name : String} (h : name ∈ recognised document) :
    '{' ∉ name.toList ∧ '}' ∉ name.toList := by
  obtain ⟨n, hn, rfl⟩ := mem_recognised_iff.1 h
  obtain ⟨hopen, hclose⟩ := noBrace_iff.1 (isName_of_mem_pieces hn).2
  rw [String.toList_ofList]
  exact ⟨fun hc => hopen (mem_of_mem_trimChars hc), fun hc => hclose (mem_of_mem_trimChars hc)⟩

/-- If nothing is stray, what is looked up are the placeholders of the program. -/
theorem Zpl.Program.recognised_document {p : Program}
    (hnames : ∀ c ∈ p.commands, ∀ name, c.placeholder? = some name → IsName name.toList)
    (hs : ¬ Stray p.spans) :
    recognised p.document = (p.commands.filterMap Command.placeholder?).map trim := by
  rw [recognised, names, p.toList_document,
    pieces_spans (fun _ => p.noBrace_of_fixed) (p.isName_of_hole hnames) hs,
    filterMap_name?_pieces, p.filterMap_name?_spans, List.map_map]
  rfl

/-! ## Templates -/

theorem isName_of_placeholder? {t : Template} {options : CompileOptions}
    (h : ∀ name ∈ fillableVariables t.elements, '{' ∉ name.toList ∧ '}' ∉ name.toList) :
    ∀ c ∈ (t.program options).commands, ∀ name, c.placeholder? = some name →
      IsName name.toList := by
  intro c hc name hname
  have hmem : name ∈ (t.program options).commands.filterMap Command.placeholder? :=
    List.mem_filterMap.2 ⟨c, hc, hname⟩
  rw [Template.program, filterMap_placeholder?_compileProgram] at hmem
  split at hmem
  · have hv : name ∈ fillableVariables t.elements := by
      rwa [fillableVariables_eq, List.mem_eraseDups]
    exact ⟨by simpa using (fillableVariables_spec hv).1, noBrace_iff.2 (h name hv)⟩
  · simp at hmem

/-- **The scanner finds exactly the variables of a template, and filling the document changes
nothing else**, exactly if no variable has a brace in its name and the texts of the template hold
no placeholder of their own. -/
theorem placeholders_exact_iff (t : Template) (options : CompileOptions) :
    let p := t.program { options with placeholders := true }
    ((∀ name, name ∈ recognised p.document ↔ name ∈ fillableVariables t.elements) ∧
      ∀ values, substitute p.document values = (p.fill values).document) ↔
    (∀ name ∈ fillableVariables t.elements, '{' ∉ name.toList ∧ '}' ∉ name.toList) ∧
      ¬ Stray p.spans := by
  intro p
  constructor
  · rintro ⟨hset, hfill⟩
    have hbraces : ∀ name ∈ fillableVariables t.elements,
        '{' ∉ name.toList ∧ '}' ∉ name.toList :=
      fun name h => noBrace_of_mem_recognised ((hset name).2 h)
    exact ⟨hbraces, (p.substitute_eq_fill_iff (isName_of_placeholder? hbraces)).1 hfill⟩
  · rintro ⟨hbraces, hstray⟩
    have hnames : ∀ c ∈ p.commands, ∀ name, c.placeholder? = some name → IsName name.toList :=
      isName_of_placeholder? hbraces
    refine ⟨fun name => ?_, (p.substitute_eq_fill_iff hnames).2 hstray⟩
    have hplaceholders : p.commands.filterMap Command.placeholder? =
        (printOrder t.elements).filterMap Element.fillable? :=
      filterMap_placeholder?_compileProgram ..
    have hmem : ∀ name, name ∈ (printOrder t.elements).filterMap Element.fillable? ↔
        name ∈ fillableVariables t.elements := fun name => by
      rw [fillableVariables_eq, List.mem_eraseDups]
    rw [p.recognised_document hnames hstray, hplaceholders, List.mem_map]
    constructor
    · rintro ⟨n, hn, rfl⟩
      have hv := (hmem n).1 hn
      rwa [(fillableVariables_spec hv).2.1]
    · exact fun h => ⟨name, (hmem name).2 h, (fillableVariables_spec h).2.1⟩

/-- A label with a fixed text that reads like a placeholder. -/
def literalLabel : Template where
  canvas := { width := 58, height := 40 }
  elements := [
    { frame := { id := "note", x := 5, y := 5 }
      kind := .text { content := "\x7b\x7bx\x7d\x7d" } }]

/-- A label with a variable whose name has a brace. -/
def unreadableLabel : Template where
  canvas := { width := 58, height := 40 }
  elements := [
    { frame := { id := "lot", x := 5, y := 5 }
      kind := .text { dataField := some "a\x7bb" } }]

/-- A fixed text is taken for a placeholder and lost, and a variable is never found. -/
theorem placeholders_not_exact :
    ("x" ∈ recognised (literalLabel.compile {}) ∧
      fillableVariables literalLabel.elements = [] ∧
      substitute (literalLabel.compile {}) ∅ ≠ literalLabel.compile {}) ∧
    (recognised (unreadableLabel.compile {}) = [] ∧
      fillableVariables unreadableLabel.elements = ["a\x7bb"]) := by
  decide +kernel

end LabelPress
