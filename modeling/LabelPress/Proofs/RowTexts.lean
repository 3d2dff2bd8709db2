import LabelPress.Proofs.ColumnMaps
import LabelPress.Proofs.JsonText
import LabelPress.Proofs.ReadRanges
import Mathlib.Data.List.DropRight
import Mathlib.Data.List.Forall2

/-!
# The rows of a text

Rows have readers of their own, which make cells and rows of the values as they go. Whatever these
read, the reader of all values reads too (`Refines`), so the cells can be told by the JSON value of
the text.

* `refines_items`, `refines_fields`: from one item to a list, from one value to an object.
* `exists_of_parseRows`: **a text of rows is a list of objects**, and the cells are those of their
  values (`RowOf`).
-/

namespace LabelPress

open Json Json.Reader

/-! ## One reader in terms of another -/

namespace Json.Reader

variable {α β σ τ : Type} {reader : Reader α} {reader' : Reader β} {rel : α → β → Prop}
  {rel' : σ → τ → Prop} {s t : List Char} {a : α}

/-- What the first reader reads, the second reads too, with a related result. -/
def Refines (reader : Reader α) (reader' : Reader β) (rel : α → β → Prop) : Prop :=
  ∀ s a t, reader s = .ok (a, t) → ∃ b, reader' s = .ok (b, t) ∧ rel a b

theorem refines_self (reader : Reader α) : Refines reader reader (· = ·) :=
  fun _ a _ h => ⟨a, h, rfl⟩

theorem refines_throw (fault : Fault) : Refines (throw fault) reader' rel :=
  fun _ _ _ h => nomatch h

theorem refines_pure {b : β} (h : rel a b) : Refines (pure a) (pure b) rel := by
  intro s c t hread
  cases hread
  exact ⟨b, rfl, h⟩

theorem Refines.bind {next : α → Reader σ} {next' : β → Reader τ} (h : Refines reader reader' rel)
    (hnext : ∀ a b, rel a b → Refines (next a) (next' b) rel') :
    Refines (reader >>= next) (reader' >>= next') rel' := by
  intro s c u hread
  obtain ⟨⟨a, t⟩, ha, hc⟩ := bind_eq_ok_iff.1 hread
  obtain ⟨b, hb, hab⟩ := h s a t ha
  obtain ⟨d, hd, hcd⟩ := hnext a b hab t c u hc
  exact ⟨d, (bind_eq hb).trans hd, hcd⟩

theorem refines_foldItems {step : σ → Reader σ} {step' : τ → Reader τ}
    (hstep : ∀ state state', rel' state state' → Refines (step state) (step' state') rel')
    (fuel : Nat) (first : Bool) {state : σ} {state' : τ} (h : rel' state state') :
    Refines (foldItems step fuel first state) (foldItems step' fuel first state') rel' := by
  induction fuel generalizing first state state' with
  | zero => exact refines_throw _
  | succ fuel ih =>
    refine (refines_self (hasItem first)).bind ?_
    rintro more _ rfl
    cases more with
    | true => exact (hstep _ _ h).bind fun _ _ hnext => ih false hnext
    | false => exact refines_pure h

theorem refines_foldFields {step : σ → String → Reader σ} {step' : τ → String → Reader τ}
    (hstep : ∀ state state' key, rel' state state' →
      Refines (step state key) (step' state' key) rel')
    (fuel : Nat) (first : Bool) {state : σ} {state' : τ} (h : rel' state state') :
    Refines (foldFields step fuel first state) (foldFields step' fuel first state') rel' := by
  induction fuel generalizing first state state' with
  | zero => exact refines_throw _
  | succ fuel ih =>
    refine (refines_self (nextKey? first)).bind ?_
    rintro key _ rfl
    cases key with
    | some key => exact (hstep _ _ key h).bind fun _ _ hnext => ih false hnext
    | none => exact refines_pure h

theorem refines_items (h : Refines reader reader' rel) :
    Refines (items reader) (items reader') (List.Forall₂ rel) := by
  refine (refines_self get).bind ?_
  rintro s _ rfl
  have hstep : ∀ done done', List.Forall₂ rel done done' →
      Refines (do return (← reader) :: done) (do return (← reader') :: done') (List.Forall₂ rel) :=
    fun _ _ hdone => h.bind fun _ _ hab => refines_pure (.cons hab hdone)
  refine (refines_foldItems hstep _ true .nil).bind fun done done' hdone => ?_
  exact (refines_self closeArray).bind fun _ _ _ => refines_pure (List.rel_reverse hdone)

/-- Fields of the same key with related values. -/
def SameKey (rel : α → β → Prop) (field : String × α) (field' : String × β) : Prop :=
  field.1 = field'.1 ∧ rel field.2 field'.2

theorem SameKey.exists_lookup {fields : List (String × α)} {fields' : List (String × β)}
    (h : List.Forall₂ (SameKey rel) fields fields') {key : String} {b : β}
    (hb : fields'.lookup key = some b) : ∃ a, fields.lookup key = some a ∧ rel a b := by
  induction h with
  | nil => cases hb
  | @cons field field' fields fields' hfield _ ih =>
    obtain ⟨key₁, a₁⟩ := field
    obtain ⟨key₂, b₂⟩ := field'
    obtain ⟨hkey, hrel⟩ := hfield
    dsimp only at hkey hrel
    subst hkey
    rw [List.lookup_cons] at hb ⊢
    split at hb
    · cases hb
      exact ⟨a₁, rfl, hrel⟩
    · exact ih hb

theorem refines_fields (h : Refines reader reader' rel) :
    Refines (fields reader) (fields reader') (List.Forall₂ (SameKey rel)) := by
  refine (refines_self get).bind ?_
  rintro s _ rfl
  have hstep : ∀ done done' key, List.Forall₂ (SameKey rel) done done' →
      Refines (consField reader done key) (consField reader' done' key)
        (List.Forall₂ (SameKey rel)) := by
    intro done done' key hdone
    refine (refines_self colon).bind fun _ _ _ => ?_
    exact h.bind fun _ _ hab => refines_pure (.cons ⟨rfl, hab⟩ hdone)
  refine (refines_foldFields hstep _ true .nil).bind fun done done' hdone => ?_
  exact (refines_self closeObject).bind fun _ _ _ => refines_pure (List.rel_reverse hdone)

/-! ## Lists and objects -/

/-- A list or object that was read begins with its character. -/
theorem exists_of_opening {opening : Char} {expected : Expected} {depth : Nat}
    {body : Nat → Reader α}
    (h : (do if (← peekValue) = opening then descend (depth + 1) body else unexpected expected)
      s = .ok (a, t)) :
    ∃ rest, s.dropWhile isSpace = opening :: rest ∧ body depth rest = .ok (a, t) := by
  obtain ⟨⟨c, u⟩, hpeek, hread⟩ := bind_eq_ok_iff.1 h
  have hnext : peek s = .ok ((s.dropWhile isSpace).head?, s.dropWhile isSpace) := rfl
  rw [peekValue, bind_eq hnext] at hpeek
  cases hrest : s.dropWhile isSpace with
  | nil =>
    rw [hrest] at hpeek
    cases hpeek
  | cons d rest =>
    rw [hrest] at hpeek
    cases hpeek
    dsimp only at hread
    split_ifs at hread with hopening
    · subst hopening
      exact ⟨rest, rfl, hread⟩
    · exact (ensures_unexpected expected (fun _ => False) _ _ _ hread).elim

/-- A value is read behind the spaces in front of it. -/
theorem valueOf_dropWhile (inner : Option (Reader Json)) (s : List Char) :
    valueOf inner s = valueOf inner (s.dropWhile isSpace) := by
  have hpeek : peek s = peek (s.dropWhile isSpace) := by
    unfold peek
    rw [List.dropWhile_idempotent]
  have hbind : ∀ f : Option Char → Reader Json,
      (peek >>= f) s = (peek >>= f) (s.dropWhile isSpace) := by
    intro f
    change (peek s >>= fun p => f p.1 p.2) = (peek (s.dropWhile isSpace) >>= fun p => f p.1 p.2)
    rw [hpeek]
  exact hbind _

end Json.Reader

/-! ## Rows -/

/-- The cell of a value. -/
def CellOf (cell : Cell) (value : Json) : Prop := Cell.ofJson value = .ok cell

/-- The row of an object: each field is a cell. -/
def RowOf (row : Row) (item : Json) : Prop :=
  ∃ cells fields, item = .object fields ∧ row = rowOfFields cells ∧
    List.Forall₂ (SameKey CellOf) cells fields

/-- The last field of a name is the cell of that column. -/
theorem RowOf.exists_cell {row : Row} {fields : List (String × Json)} {column : String}
    {value : Json} (h : RowOf row (.object fields))
    (hvalue : fields.reverse.lookup column = some value) :
    ∃ cell, row[column]? = some cell ∧ CellOf cell value := by
  obtain ⟨cells, _, hitem, rfl, hcells⟩ := h
  cases hitem
  obtain ⟨cell, hcell, hof⟩ := SameKey.exists_lookup (List.rel_reverse hcells) hvalue
  exact ⟨cell, (getElem?_rowOfFields cells column).trans hcell, hof⟩

theorem refines_readCell (depth : Nat) : Refines (readCell depth) (value depth) CellOf := by
  intro s cell t hread
  obtain ⟨⟨j, u⟩, hvalue, hcell⟩ := bind_eq_ok_iff.1 hread
  obtain ⟨cell', hof, hcell⟩ := bind_eq_ok_iff.1 hcell
  cases hcell
  exact ⟨j, hvalue, hof⟩

theorem refines_readRow (depth : Nat) :
    Refines (readRow (depth + 1)) (value (depth + 1)) RowOf := by
  intro s row t hread
  obtain ⟨⟨cells, u⟩, hobject, hrow⟩ := bind_eq_ok_iff.1 hread
  cases hrow
  obtain ⟨rest, hrest, hcells⟩ := exists_of_opening hobject
  obtain ⟨fields, hfields, hrel⟩ := refines_fields (refines_readCell depth) rest cells t hcells
  refine ⟨.object fields, ?_, cells, fields, rfl, rfl, hrel⟩
  rw [value, valueOf_dropWhile, hrest, valueOf_brace]
  exact bind_eq hfields

/-- **A text of rows is a list of objects.** -/
theorem exists_of_parseRows {text : String} {rows : List Row} (h : parseRows text = .ok rows) :
    ∃ items, parse text = .ok (.array items) ∧ List.Forall₂ RowOf rows items := by
  obtain ⟨⟨rows', t⟩, harray, hrun⟩ := bind_eq_ok_iff.1 h
  obtain ⟨rest, hrest, hitems⟩ := exists_of_opening harray
  obtain ⟨items, hread, hrel⟩ := refines_items (refines_readRow _) rest rows' t hitems
  have hvalue : value maxDepth text.toList = .ok (.array items, t) := by
    rw [maxDepth, value, valueOf_dropWhile, hrest, valueOf_bracket]
    exact bind_eq hread
  dsimp only at hrun
  split_ifs at hrun with hend
  cases hrun
  refine ⟨items, ?_, hrel⟩
  refine bind_eq_ok_iff.2 ⟨_, hvalue, ?_⟩
  exact if_pos hend

end LabelPress
