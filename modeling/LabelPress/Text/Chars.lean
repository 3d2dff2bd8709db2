/-!
# Text as characters

Text is kept as `String`. The functions that take text apart work on `List Char`, by recursion
on the list, and `onChars` lifts them to strings.

## Main definitions

* `onChars` - a function on characters as a function on strings.
* `splitAt?`, `splitAtLast?`, `splitAll` - cutting a text at a separator character.
* `dropText?` - removing a given text from the front.
* `joinLines` - lines with a line feed between neighbours.
-/

namespace LabelPress.Text

/-- Applies a function on characters to a string. -/
def onChars (f : List Char → List Char) (s : String) : String :=
  String.ofList (f s.toList)

@[simp] theorem toList_onChars (f : List Char → List Char) (s : String) :
    (onChars f s).toList = f s.toList := by
  simp [onChars]

/-! ## Cutting -/

/-- The parts before and after the first `sep`, if there is one. -/
def splitAt? (sep : Char) (s : List Char) : Option (List Char × List Char) :=
  match s.dropWhile (· != sep) with
  | [] => none
  | _ :: after => some (s.takeWhile (· != sep), after)

/-- The parts before and after the last `sep`, if there is one. -/
def splitAtLast? (sep : Char) (s : List Char) : Option (List Char × List Char) :=
  (splitAt? sep s.reverse).map fun (after, before) => (before.reverse, after.reverse)

/-- The parts between the separators, in order; a text without one is its only part. -/
def splitAll (sep : Char) : List Char → List (List Char)
  | [] => [[]]
  | c :: s =>
    if c = sep then [] :: splitAll sep s
    else match splitAll sep s with
      | part :: parts => (c :: part) :: parts
      | [] => [[c]]

/-- What follows `start` in a text that begins with it. -/
def dropText? : (start : List Char) → List Char → Option (List Char)
  | [], s => some s
  | c :: start, d :: s => if c = d then dropText? start s else none
  | _ :: _, [] => none

/-- What precedes `stop` in a text that ends with it. -/
def dropTextEnd? (stop s : List Char) : Option (List Char) :=
  (dropText? stop.reverse s.reverse).map List.reverse

/-! ## Lines -/

/-- Each line with a line feed before it. -/
def onNewLines : List String → String
  | [] => ""
  | line :: lines => "\n" ++ line ++ onNewLines lines

/-- The lines with a line feed between neighbours. -/
def joinLines : List String → String
  | [] => ""
  | line :: lines => line ++ onNewLines lines

@[simp] theorem onNewLines_append (ls ms : List String) :
    onNewLines (ls ++ ms) = onNewLines ls ++ onNewLines ms := by
  induction ls with
  | nil => simp [onNewLines]
  | cons l ls ih => simp [onNewLines, ih, String.append_assoc]

/-! ## Letter case of the first 128 characters -/

/-- Lowers the letters `A` to `Z` and leaves every other character. -/
def lowerLatin (s : List Char) : List Char :=
  s.map Char.toLower

end LabelPress.Text
