import LabelPress.Element.Order

/-!
# The variables of a template

## Main definitions

* `fillableVariables` - the names that a row of data has to supply.
* `displayNames` - every bound name with the name that people see.
-/

namespace LabelPress

/-- The list without later repeats: of the items with one key, the first stays. -/
def firstOfEach {α β : Type} [DecidableEq β] (key : α → β) : List α → List α
  | [] => []
  | a :: as => a :: (firstOfEach key as).filter (key · ≠ key a)

/-- The variable that the element is bound to. -/
def Element.fillable? (e : Element) : Option String :=
  match e.binding with
  | .fillable name => some name
  | .unbound | .rfid _ => none

/-- The variables of the visible elements in the order of printing, each once. Memory banks are not
among them. -/
def fillableVariables (elements : List Element) : List String :=
  firstOfEach id ((printOrder elements).filterMap Element.fillable?)

/-- The bound name of an element, and the name that people see: its own, or else the bound one. -/
def Element.displayName? (e : Element) : Option (String × String) :=
  e.dataField?.map fun field => (field, if e.frame.name = "" then field else e.frame.name)

/-- Every bound name, memory banks included, with the name that people see. The first element that
binds a name decides. -/
def displayNames (elements : List Element) : List (String × String) :=
  firstOfEach Prod.fst ((printOrder elements).filterMap Element.displayName?)

example : firstOfEach id [3, 1, 3, 2, 1] = [3, 1, 2] := by decide

end LabelPress
