import LabelPress.Element.Commands
import Mathlib.Data.List.DropRight
import Mathlib.Data.List.Sort

/-!
# What an element is bound to and what it becomes

Texts, places for variables and barcodes become one field each, with the reading of a bank of the
tag next to it where the element is bound to one. All other elements become figures.

* `binding_eq_rfid_iff`, `binding_eq_fillable_iff`: the binding of an element by its trimmed name
  alone.
* `dataField?_spec`: a bound name is not empty and has no blanks around it.
* `commands_of_field`: **the commands of an element with a field** are the field and the reading,
  after it for a text or a place, before it for a barcode.
* `commands_of_no_field`: all other elements have neither a field nor a reading.
* `printOrder_perm`: what prints are the visible elements, each once.
-/

namespace LabelPress

open LabelPress.Text LabelPress.Zpl

/-! ## Trimmed names -/

theorem trimChars_eq (s : List Char) :
    trimChars s = (s.dropWhile isBlank).rdropWhile isBlank := rfl

/-- A trimmed text has no blanks at its ends. -/
theorem trimChars_trimChars (s : List Char) : trimChars (trimChars s) = trimChars s := by
  have hfront : (trimChars s).dropWhile isBlank = trimChars s := by
    rw [List.dropWhile_eq_self_iff]
    intro hl
    obtain ⟨t, ht⟩ := List.rdropWhile_prefix isBlank (s.dropWhile isBlank)
    rw [← trimChars_eq] at ht
    have hne : s.dropWhile isBlank ≠ [] := by
      rintro h
      rw [h, List.append_eq_nil_iff] at ht
      simp [ht.1] at hl
    have hhead := List.head_dropWhile_not isBlank hne
    have hget : (s.dropWhile isBlank).head hne = (trimChars s)[0] := by
      rw [List.head_eq_getElem]
      simp only [← ht, List.getElem_append_left hl]
    rw [← hget, hhead]
    simp
  rw [trimChars_eq (trimChars s), hfront, trimChars_eq, List.rdropWhile_idempotent]

@[simp] theorem trim_trim (s : String) : trim (trim s) = trim s := by
  simp [trim, onChars, trimChars_trimChars]

theorem mem_of_mem_trimChars {c : Char} {s : List Char} (h : c ∈ trimChars s) : c ∈ s :=
  (List.dropWhile_suffix isBlank).subset ((List.rdropWhile_prefix isBlank _).subset h)

/-! ## Bindings -/

theorem Zpl.MemoryBank.ofName?_eq_some_iff {name : String} {bank : MemoryBank} :
    MemoryBank.ofName? name = some bank ↔ name = bank.name := by
  constructor
  · intro h
    unfold MemoryBank.ofName? at h
    split at h
    · cases h; assumption
    · split at h
      · cases h; assumption
      · split at h
        · cases h; assumption
        · cases h
  · rintro rfl
    exact MemoryBank.ofName?_name bank

/-- The names that refer to the tag. -/
def reservedNames : List String := ["EPC", "TID", "User Data"]

theorem mem_reservedNames {name : String} :
    name ∈ reservedNames ↔ ∃ bank : MemoryBank, name = bank.name := by
  constructor
  · intro h
    simp only [reservedNames, List.mem_cons, List.not_mem_nil, or_false] at h
    rcases h with rfl | rfl | rfl
    exacts [⟨.epc, rfl⟩, ⟨.tid, rfl⟩, ⟨.userData, rfl⟩]
  · rintro ⟨bank, rfl⟩
    cases bank <;> decide

theorem Zpl.MemoryBank.ofName?_eq_none_iff {name : String} :
    MemoryBank.ofName? name = none ↔ name ∉ reservedNames := by
  rw [mem_reservedNames, Option.eq_none_iff_forall_ne_some, not_exists]
  exact forall_congr' fun _ => not_congr MemoryBank.ofName?_eq_some_iff

namespace Element

variable {e : Element}

/-- A bound name is not empty and has no blanks around it. -/
theorem dataField?_spec {name : String} (h : e.dataField? = some name) :
    name ≠ "" ∧ trim name = name := by
  obtain ⟨hne, field, -, hname⟩ := dataField?_eq_some_iff.1 h
  subst hname
  exact ⟨hne, trim_trim field⟩

theorem binding_eq_unbound_iff : e.binding = .unbound ↔ e.dataField? = none := by
  unfold binding
  split
  · simp [*]
  · split <;> simp [*]

theorem binding_eq_rfid_iff {bank : MemoryBank} :
    e.binding = .rfid bank ↔ e.dataField? = some bank.name := by
  unfold binding
  split
  · simp [*]
  · rename_i name h
    rw [h, Option.some.injEq, ← MemoryBank.ofName?_eq_some_iff]
    split <;> simp [*]

/-- An element is bound to a variable if its name is not reserved. -/
theorem binding_eq_fillable_iff {name : String} :
    e.binding = .fillable name ↔ e.dataField? = some name ∧ name ∉ reservedNames := by
  unfold binding
  rw [← MemoryBank.ofName?_eq_none_iff]
  split
  · simp [*]
  · rename_i field h
    rw [h, Option.some.injEq]
    split
    · rename_i bank hbank
      simp only [reduceCtorEq, false_iff, not_and]
      rintro rfl
      simp [hbank]
    · rename_i hnone
      rw [Binding.fillable.injEq]
      exact ⟨by rintro rfl; exact ⟨rfl, hnone⟩, And.left⟩

/-! ## Fields -/

/-- The field of an element that can be bound, for any data. -/
def field? (e : Element) (dpi : Nat) : Option (FieldData → Command) :=
  let p := e.frame.place dpi
  match e.kind with
  | .text t => some (.text p.x p.y (.sized (.ofFamily t.fontFamily) p.orientation t.fontSize dpi))
  | .slot v =>
    some (.text p.x p.y
      (.sized (.ofFamily v.fontFamily) p.orientation VariableElement.fontSize dpi))
  | .barcode b => some (b.command p)
  | _ => none

def fallback (e : Element) : String :=
  match e.kind with
  | .text t => t.fallback
  | .slot v => v.fallback
  | .barcode b => b.fallback
  | _ => ""

def source (e : Element) (options : CompileOptions) : FieldSource :=
  fieldSource options e.binding e.fallback

section Source

variable {options : CompileOptions}

theorem source_of_rfid {bank : MemoryBank} (h : e.binding = .rfid bank) :
    e.source options = { data := .fieldNumber (options.scheme.access bank).fieldNumber,
                         read := some (options.scheme.access bank) } := by
  simp [source, fieldSource, h]

theorem source_of_fillable {name : String} (h : e.binding = .fillable name) :
    e.source options =
      { data := if options.placeholders then .placeholder name else .literal e.fallback,
        read := none } := by
  simp only [source, fieldSource, h]
  split <;> rfl

theorem source_of_unbound (h : e.binding = .unbound) :
    e.source options = { data := .literal e.fallback, read := none } := by
  simp [source, fieldSource, h]

/-- What is read for an element is a bank of the tag. -/
theorem exists_bank_of_read {access : BankAccess} (h : (e.source options).read = some access) :
    ∃ bank, access = options.scheme.access bank := by
  cases hb : e.binding with
  | rfid bank =>
    rw [source_of_rfid hb] at h
    exact ⟨bank, (Option.some.inj h).symm⟩
  | fillable name =>
    rw [source_of_fillable hb] at h
    cases h
  | unbound =>
    rw [source_of_unbound hb] at h
    cases h

end Source

def isBarcode (e : Element) : Bool :=
  match e.kind with
  | .barcode _ => true
  | _ => false

end Element

/-- Where a reading stands among the commands of its element: before a barcode, else after. -/
def withReads (isBarcode : Bool) (field : Command) (reads : List Command) : List Command :=
  if isBarcode then reads ++ [field] else field :: reads

namespace Element

variable {e : Element} {dpi : Nat} {options : CompileOptions} {field : FieldData → Command}

theorem data?_of_field? (h : e.field? dpi = some field) (data : FieldData) :
    (field data).data? = some data := by
  unfold field? at h
  split at h
  · cases h; rfl
  · cases h; rfl
  · cases h
    dsimp only [BarcodeElement.command]
    split <;> rfl
  · cases h

/-- **The commands of an element with a field**: the field and the reading of its bank. -/
theorem commands_of_field (h : e.field? dpi = some field) :
    e.commands dpi options =
      withReads e.isBarcode (field (e.source options).data)
        ((e.source options).read.toList.map .rfidRead) := by
  unfold commands
  unfold field? at h
  split at h
  · rename_i t hk
    cases h
    simp [hk, TextElement.commands, textCommands, source, fallback, isBarcode, withReads]
  · rename_i v hk
    cases h
    simp [hk, VariableElement.commands, textCommands, source, fallback, isBarcode, withReads]
  · rename_i b hk
    cases h
    simp [hk, BarcodeElement.commands, source, fallback, isBarcode, withReads]
  · cases h

/-- Each of them is the field or a reading. -/
theorem mem_commands_of_field (h : e.field? dpi = some field) {c : Command}
    (hc : c ∈ e.commands dpi options) :
    c = field (e.source options).data ∨
      ∃ access, (e.source options).read = some access ∧ c = .rfidRead access := by
  rw [commands_of_field h] at hc
  unfold withReads at hc
  split at hc
  · rcases List.mem_append.1 hc with hc | hc
    · obtain ⟨access, hread, rfl⟩ := List.mem_map.1 hc
      exact .inr ⟨access, Option.mem_toList.1 hread, rfl⟩
    · exact .inl (List.mem_singleton.1 hc)
  · rcases List.mem_cons.1 hc with hc | hc
    · exact .inl hc
    · obtain ⟨access, hread, rfl⟩ := List.mem_map.1 hc
      exact .inr ⟨access, Option.mem_toList.1 hread, rfl⟩

end Element

/-! ## Figures -/

/-- Commands that print a figure or a remark: they have no data and concern neither the tag nor
the frame of the label. -/
def Zpl.Command.isFigure : Command → Bool
  | .box .. | .ellipse .. | .diagonal .. | .graphicField .. | .comment _ => true
  | _ => false

theorem Zpl.Command.data?_of_isFigure {c : Command} (h : c.isFigure = true) : c.data? = none := by
  cases c <;> simp_all [Command.isFigure, Command.data?]

theorem LineElement.isFigure_of_mem_commands (l : LineElement) {p : Placement} {dpi : Nat} :
    ∀ c ∈ l.commands p dpi, c.isFigure = true := by
  intro c hc
  unfold LineElement.commands at hc
  extract_lets turned width height thickness at hc
  split at hc
  · simp at hc
  · split at hc
    · rw [List.mem_singleton.1 hc]; rfl
    · split at hc <;> (rw [List.mem_singleton.1 hc]; rfl)

theorem ImageElement.isFigure_command (i : ImageElement) (frame : Frame) (p : Placement)
    (options : CompileOptions) : (i.command frame p options).isFigure = true := by
  unfold ImageElement.command
  split
  · rfl
  · split
    · split <;> rfl
    · rfl

namespace Element

variable {e : Element} {dpi : Nat} {options : CompileOptions}

/-- An element without a field becomes figures. -/
theorem commands_of_no_field (h : e.field? dpi = none) :
    ∀ c ∈ e.commands dpi options, c.isFigure = true := by
  unfold commands
  unfold field? at h
  split at h
  · cases h
  · cases h
  · cases h
  · rename_i htext hslot hbarcode
    cases hk : e.kind with
    | text t => exact absurd hk (htext t)
    | slot v => exact absurd hk (hslot v)
    | barcode b => exact absurd hk (hbarcode b)
    | rectangle r => simp [RectangleElement.command, Command.isFigure]
    | ellipse s => simp [EllipseElement.command, Command.isFigure]
    | line l => exact l.isFigure_of_mem_commands
    | image i => simpa using i.isFigure_command e.frame _ options
    | unknown typeName => simp [Command.isFigure]

/-- An element without a field is bound to nothing. -/
theorem dataField?_of_no_field (h : e.field? dpi = none) : e.dataField? = none := by
  unfold field? at h
  unfold dataField?
  split at h <;> simp_all

end Element

/-! ## What prints -/

/-- Sorting by rank is insertion sort. -/
theorem sortByRank_eq_insertionSort {α : Type} (rank : α → Rank) (l : List α) :
    sortByRank rank l = l.insertionSort fun a b => (rank a).atMost (rank b) := by
  have hinsert : ∀ a l, insertInOrder rank a l =
      l.orderedInsert (fun a b => (rank a).atMost (rank b)) a := by
    intro a l
    induction l with
    | nil => rfl
    | cons b l ih => rw [insertInOrder, List.orderedInsert_cons, ih]
  unfold sortByRank List.insertionSort
  congr 1
  funext a l
  exact hinsert a l

theorem sortByRank_perm {α : Type} (rank : α → Rank) (l : List α) :
    (sortByRank rank l).Perm l := by
  rw [sortByRank_eq_insertionSort]
  exact List.perm_insertionSort _ l

/-- What prints are the visible elements, each once. -/
theorem printOrder_perm (es : List Element) :
    (printOrder es).Perm (es.filter (·.frame.visible)) :=
  sortByRank_perm _ _

theorem mem_printOrder {e : Element} {es : List Element} :
    e ∈ printOrder es ↔ e ∈ es ∧ e.frame.visible = true := by
  rw [(printOrder_perm es).mem_iff, List.mem_filter]

end LabelPress
