import LabelPress.Element.Basic

/-!
# The order of printing

Elements print by layer, then from top to bottom, then from left to right. Elements at the same
place keep the order in which they were given. Coordinates are compared by the bits of their floats,
so the order is total whatever the coordinates are.

## Main definitions

* `Rank` - what decides when an element prints.
* `Rank.atMost`, `Element.atMost` - the order.
* `sortByRank` - a list in that order.
* `printOrder` - the visible elements in that order.
-/

namespace LabelPress

open LabelPress.Number

/-- A layer, and coordinates by the bits of their floats. -/
structure Rank where
  layer : Int
  y : UInt64
  x : UInt64
deriving DecidableEq, Repr

/-- Whether what has rank `a` prints before what has rank `b`, or at the same place. -/
def Rank.atMost (a b : Rank) : Bool :=
  if a.layer ≠ b.layer then a.layer < b.layer
  else if orderKey a.y ≠ orderKey b.y then orderKey a.y < orderKey b.y
  else orderKey a.x ≤ orderKey b.x

namespace Element

def rank (e : Element) : Rank where
  layer := e.frame.zIndex
  y := e.frame.y.toBits
  x := e.frame.x.toBits

/-- Whether `a` prints before `b` or at the same place. -/
def atMost (a b : Element) : Bool := a.rank.atMost b.rank

end Element

section Sorting

variable {α : Type} (rank : α → Rank)

/-- Puts an item in front of those that print at the same place or later. -/
def insertInOrder (a : α) : List α → List α
  | [] => [a]
  | b :: l => if (rank a).atMost (rank b) then a :: b :: l else b :: insertInOrder a l

/-- The items in order; those at the same place keep their order. -/
def sortByRank (l : List α) : List α :=
  l.foldr (insertInOrder rank) []

end Sorting

/-- The visible elements in order. -/
def printOrder (es : List Element) : List Element :=
  sortByRank Element.rank (es.filter (·.frame.visible))

end LabelPress
