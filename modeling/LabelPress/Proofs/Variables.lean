import LabelPress.Proofs.Emission
import LabelPress.Proofs.Filling
import LabelPress.Template.Compile
import LabelPress.Template.Variables

/-!
# The variables of a template

The names that a row of data has to supply are found in three ways: as the placeholders of the
program, as `fillableVariables`, and among `displayNames`. All three go through the elements in the
order of printing, so they agree.

* `firstOfEach_id`, `map_firstOfEach`, `filter_firstOfEach`: taking the first of each commutes with
  what the three do besides.
* `filterMap_placeholder?_commands`: an element bound to a variable has one placeholder.
* `variables_agree`: **the three ways agree**, name by name and in order.
-/

namespace LabelPress

open LabelPress.Text LabelPress.Zpl

/-! ## The first of each -/

section FirstOfEach

variable {α β : Type} [DecidableEq β] (key : α → β)

theorem firstOfEach_cons (a : α) (l : List α) :
    firstOfEach key (a :: l) = a :: (firstOfEach key l).filter (key · ≠ key a) := rfl

theorem filter_firstOfEach (p : β → Bool) (l : List α) :
    (firstOfEach key l).filter (p ∘ key) = firstOfEach key (l.filter (p ∘ key)) := by
  induction l with
  | nil => rfl
  | cons a l ih =>
    rw [firstOfEach_cons]
    by_cases h : (p ∘ key) a = true
    · rw [List.filter_cons_of_pos h, List.filter_cons_of_pos h, List.filter_filter,
        firstOfEach_cons, ← ih, List.filter_filter]
      simp only [Bool.and_comm]
    · rw [List.filter_cons_of_neg h, List.filter_cons_of_neg h, List.filter_filter, ← ih]
      refine List.filter_congr fun b _ => ?_
      -- what has the key of `a` does not pass the filter either
      by_cases hb : key b = key a
      · rw [Function.comp_apply, hb]
        simpa using h
      · simp [hb]

theorem map_firstOfEach (l : List α) :
    (firstOfEach key l).map key = firstOfEach id (l.map key) := by
  induction l with
  | nil => rfl
  | cons a l ih =>
    rw [List.map_cons, firstOfEach_cons, firstOfEach_cons, List.map_cons, ← ih, List.filter_map]
    rfl

theorem firstOfEach_id : ∀ l : List β, firstOfEach id l = l.eraseDups
  | [] => rfl
  | b :: l => by
    have hlt : (l.filter fun c => !c == b).length < l.length + 1 :=
      Nat.lt_succ_of_le (List.length_filter_le _ l)
    have hf : (firstOfEach id l).filter (id · ≠ id b) =
        firstOfEach id (l.filter fun c => !c == b) := by
      have h := filter_firstOfEach id (fun c => !c == b) l
      rw [Function.comp_id] at h
      rw [← h]
      exact List.filter_congr fun c _ => by by_cases hc : c = b <;> simp [hc]
    rw [firstOfEach_cons, List.eraseDups_cons, hf, firstOfEach_id (l.filter fun c => !c == b)]
termination_by l => l.length

theorem nodup_map_firstOfEach (l : List α) : ((firstOfEach key l).map key).Nodup := by
  induction l with
  | nil => exact List.nodup_nil
  | cons a l ih =>
    rw [firstOfEach_cons, List.map_cons, List.nodup_cons]
    refine ⟨fun h => ?_, ih.sublist (List.Sublist.map key List.filter_sublist)⟩
    obtain ⟨b, hb, hkey⟩ := List.mem_map.1 h
    simpa [hkey] using (List.mem_filter.1 hb).2

/-- What is kept is the first with its key. -/
theorem find?_of_mem_firstOfEach {a : α} {l : List α} (h : a ∈ firstOfEach key l) :
    l.find? (key · = key a) = some a := by
  induction l with
  | nil => simp [firstOfEach] at h
  | cons b l ih =>
    rcases List.mem_cons.1 h with rfl | h
    · simp
    · obtain ⟨hmem, hkey⟩ := List.mem_filter.1 h
      have hne : key b ≠ key a := fun hba => by simp [hba] at hkey
      rw [List.find?_cons_of_neg (by simpa using hne)]
      exact ih hmem

end FirstOfEach

/-! ## Placeholders of a program -/

namespace Element

theorem fillable?_eq (e : Element) :
    e.fillable? = e.dataField?.filter (· ∉ reservedNames) := by
  unfold fillable?
  cases h : e.binding with
  | unbound => rw [binding_eq_unbound_iff.1 h]; rfl
  | rfid bank =>
    have hr := mem_reservedNames.2 ⟨bank, rfl⟩
    simp [binding_eq_rfid_iff.1 h, Option.filter_some, hr]
  | fillable name =>
    obtain ⟨hd, hr⟩ := binding_eq_fillable_iff.1 h
    simp [hd, Option.filter_some, hr]

/-- An element bound to a variable has one placeholder, any other element has none. -/
theorem filterMap_placeholder?_commands (e : Element) (dpi : Nat) (options : CompileOptions) :
    (e.commands dpi options).filterMap Command.placeholder? =
      if options.placeholders then e.fillable?.toList else [] := by
  cases hf : e.field? dpi with
  | none =>
    have hnone : e.fillable? = none := by simp [fillable?_eq, dataField?_of_no_field hf]
    rw [hnone, List.filterMap_eq_nil_iff.2 fun c hc => ?_]
    · split <;> rfl
    · simp [Command.placeholder?, Command.data?_of_isFigure (commands_of_no_field hf c hc)]
  | some field =>
    have hfield : ∀ data, (field data).placeholder? = data.placeholder? := fun data => by
      simp [Command.placeholder?, data?_of_field? hf]
    have hread : ∀ access, Command.placeholder? (.rfidRead access) = none := fun _ => rfl
    rw [commands_of_field hf]
    unfold fillable? withReads
    cases hb : e.binding with
    | rfid bank =>
      rw [source_of_rfid hb]
      split <;> simp [hfield, hread, FieldData.placeholder?]
    | fillable name =>
      rw [source_of_fillable hb]
      by_cases hp : options.placeholders = true <;>
        simp [hp, hfield, FieldData.placeholder?]
    | unbound =>
      rw [source_of_unbound hb]
      simp [hfield, FieldData.placeholder?]

end Element

/-- The placeholders of a program are the variables of what prints, in order. -/
theorem filterMap_placeholder?_compileProgram (canvas : Canvas) (elements : List Element)
    (options : CompileOptions) :
    (compileProgram canvas elements options).commands.filterMap Command.placeholder? =
      if options.placeholders then (printOrder elements).filterMap Element.fillable? else [] := by
  have hfront : (preamble canvas ++ tagSetup options (printOrder elements)).filterMap
      Command.placeholder? = [] := by
    unfold tagSetup
    split <;> rfl
  have helements : ∀ es : List Element,
      (es.flatMap (·.commands canvas.dpi options)).filterMap Command.placeholder? =
        if options.placeholders then es.filterMap Element.fillable? else [] := by
    intro es
    induction es with
    | nil => split <;> rfl
    | cons e es ih =>
      rw [List.flatMap_cons, List.filterMap_append, ih, e.filterMap_placeholder?_commands]
      split
      · cases h : e.fillable? <;> simp [h]
      · rfl
  dsimp only [compileProgram]
  rw [List.filterMap_append, List.filterMap_append, hfront, helements, List.nil_append]
  exact List.append_nil _

theorem fillableVariables_eq (elements : List Element) :
    fillableVariables elements = ((printOrder elements).filterMap Element.fillable?).eraseDups :=
  firstOfEach_id _

theorem mem_fillableVariables {elements : List Element} {name : String} :
    name ∈ fillableVariables elements ↔ ∃ e ∈ printOrder elements, e.binding = .fillable name := by
  rw [fillableVariables_eq, List.mem_eraseDups, List.mem_filterMap]
  refine exists_congr fun e => and_congr_right fun _ => ?_
  unfold Element.fillable?
  cases e.binding <;> simp

/-! ## Names that people see -/

/-- The bound names in `displayNames` are those of the elements that print, each once. -/
theorem map_fst_displayNames (elements : List Element) :
    (displayNames elements).map Prod.fst =
      firstOfEach id ((printOrder elements).filterMap Element.dataField?) := by
  rw [displayNames, map_firstOfEach, List.map_filterMap]
  congr 2
  funext e
  simp [Element.displayName?, Option.map_map, Function.comp_def]

/-- Without the reserved names they are the variables. -/
theorem filter_map_fst_displayNames (elements : List Element) :
    ((displayNames elements).map Prod.fst).filter (· ∉ reservedNames) =
      fillableVariables elements := by
  have h := filter_firstOfEach id (· ∉ reservedNames)
    ((printOrder elements).filterMap Element.dataField?)
  rw [Function.comp_id] at h
  rw [map_fst_displayNames, h, List.filter_filterMap, fillableVariables]
  congr 2
  funext e
  exact e.fillable?_eq.symm

/-- A variable has a name, without blanks around it, that is not reserved. -/
theorem fillableVariables_spec {elements : List Element} {name : String}
    (h : name ∈ fillableVariables elements) :
    name ≠ "" ∧ trim name = name ∧ name ∉ reservedNames := by
  obtain ⟨e, -, he⟩ := mem_fillableVariables.1 h
  obtain ⟨hfield, hr⟩ := Element.binding_eq_fillable_iff.1 he
  obtain ⟨hne, ht⟩ := e.dataField?_spec hfield
  exact ⟨hne, ht, hr⟩

/-- Listed are the names that visible elements are bound to. -/
theorem mem_map_fst_displayNames {elements : List Element} {field : String} :
    field ∈ (displayNames elements).map Prod.fst ↔
      ∃ e ∈ elements, e.frame.visible = true ∧ e.Binds field := by
  rw [map_fst_displayNames, firstOfEach_id, List.mem_eraseDups, List.mem_filterMap]
  simp only [mem_printOrder, Element.dataField?_eq_some_iff, and_assoc]

theorem find?_of_mem_displayNames {elements : List Element} {field display : String}
    (h : (field, display) ∈ displayNames elements) :
    ∃ e ∈ elements, e.frame.visible = true ∧
      (printOrder elements).find? (·.dataField? = some field) = some e ∧
      display = if e.frame.name = "" then field else e.frame.name := by
  have hfind := find?_of_mem_firstOfEach Prod.fst h
  rw [List.find?_filterMap, Option.bind_eq_some_iff] at hfind
  obtain ⟨e, he, hdisplay⟩ := hfind
  obtain ⟨hmem, hvisible⟩ := mem_printOrder.1 (List.mem_of_find?_eq_some he)
  refine ⟨e, hmem, hvisible, ?_, ?_⟩
  · rw [← he]
    congr 1
    funext e'
    cases hd : e'.dataField? <;> simp [Element.displayName?, hd]
  · obtain ⟨name, -, hname⟩ := Option.map_eq_some_iff.1 hdisplay
    obtain ⟨rfl, rfl⟩ := Prod.mk.inj hname
    rfl

/-! ## Agreement -/

/-- The three ways to the variables of a list of elements agree. -/
structure VariablesAgree (canvas : Canvas) (elements : List Element) (options : CompileOptions) :
    Prop where
  /-- The placeholders of the program, without later repeats, are the variables. -/
  placeholders :
    ((compileProgram canvas elements { options with placeholders := true }).commands.filterMap
      Command.placeholder?).eraseDups = fillableVariables elements
  /-- The bound names, without the reserved ones, are the variables. -/
  fields : ((displayNames elements).map Prod.fst).filter (· ∉ reservedNames) =
    fillableVariables elements
  /-- The bound names are those of the visible elements, -/
  bound : ∀ field, field ∈ (displayNames elements).map Prod.fst ↔
    ∃ e ∈ elements, e.frame.visible = true ∧ e.Binds field
  /-- each of them listed once. -/
  nodup : ((displayNames elements).map Prod.fst).Nodup
  /-- No bound name is empty or has blanks around it. -/
  field_trimmed : ∀ field ∈ (displayNames elements).map Prod.fst, field ≠ "" ∧ trim field = field
  /-- The same holds of the variables, and none has the name of a bank. -/
  variable_trimmed : ∀ name ∈ fillableVariables elements,
    name ≠ "" ∧ trim name = name ∧ name ∉ reservedNames
  /-- People see the name of the visible element that is the first in the order of printing to bind
  a name, or else the bound name. -/
  display : ∀ field display, (field, display) ∈ displayNames elements →
    ∃ e ∈ elements, e.frame.visible = true ∧
      (printOrder elements).find? (·.dataField? = some field) = some e ∧
      display = if e.frame.name = "" then field else e.frame.name
  /-- A program without placeholders has none. -/
  literal :
    (compileProgram canvas elements { options with placeholders := false }).commands.filterMap
      Command.placeholder? = []

/-- **The placeholders of a program, its variables and the names that people see agree.** -/
theorem variables_agree (canvas : Canvas) (elements : List Element) (options : CompileOptions) :
    VariablesAgree canvas elements options := by
  constructor
  case placeholders =>
    rw [filterMap_placeholder?_compileProgram, if_pos rfl, fillableVariables_eq]
  case fields => exact filter_map_fst_displayNames elements
  case bound => exact fun field => mem_map_fst_displayNames
  case nodup => exact nodup_map_firstOfEach Prod.fst _
  case field_trimmed =>
    intro field h
    obtain ⟨e, -, -, he⟩ := mem_map_fst_displayNames.1 h
    exact Element.dataField?_spec (Element.dataField?_eq_some_iff.2 he)
  case variable_trimmed => exact fun name => fillableVariables_spec
  case display => exact fun field display => find?_of_mem_displayNames
  case literal => rw [filterMap_placeholder?_compileProgram, if_neg (by simp)]

end LabelPress
