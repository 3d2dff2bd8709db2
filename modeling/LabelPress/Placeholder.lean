import LabelPress.Text.Blank
import LabelPress.Zpl.Field
import Std.Data.TreeMap

/-!
# Placeholders

A placeholder is a name in double braces. The name has at least one character and no brace of
its own. Filling a document replaces every placeholder by the value of its name, and nothing else.

## Main definitions

* `Piece` - a character that stays, or a placeholder.
* `pieces` - a document taken apart, from the left. Two braces that open no placeholder lose the
  first to the text, and the search goes on at the second.
* `Variables` - values by name.
* `substitute` - a document with its placeholders filled.
-/

namespace LabelPress

open LabelPress.Text

/-- Values by name, in the order of the names. -/
abbrev Variables := Std.TreeMap String String

/-- A part of a document. -/
inductive Piece where
  | char (c : Char)
  /-- A placeholder by what stands between its braces. -/
  | hole (name : List Char)
deriving DecidableEq, Repr

namespace Piece

/-- The characters that the piece was read from. -/
def source : Piece → List Char
  | char c => [c]
  | hole name => '{' :: '{' :: name ++ ['}', '}']

/-- A character that a name may have. -/
def isNameChar (c : Char) : Bool :=
  c != '{' && c != '}'

/-- The placeholder at the front of a text and what follows it. -/
def hole? : List Char → Option (List Char × List Char)
  | '{' :: '{' :: s =>
    match s.takeWhile isNameChar, s.dropWhile isNameChar with
    | c :: name, '}' :: '}' :: rest => some (c :: name, rest)
    | _, _ => none
  | _ => none

/-- What follows a placeholder is shorter than the text by its name and four braces. -/
theorem length_of_hole? {s name rest : List Char} (h : hole? s = some (name, rest)) :
    s.length = name.length + rest.length + 4 := by
  unfold hole? at h
  split at h
  · rename_i s
    have hs : s.length = (s.takeWhile isNameChar).length + (s.dropWhile isNameChar).length := by
      rw [← List.length_append, List.takeWhile_append_dropWhile]
    split at h
    · rename_i hname hrest
      obtain ⟨rfl, rfl⟩ := Prod.mk.inj (Option.some.inj h)
      rw [hname, hrest] at hs
      simp only [List.length_cons] at hs ⊢
      omega
    · cases h
  · cases h

/-- Takes the rest of a text apart; `done` holds the pieces before it, the last one first. -/
def piecesAfter (done : List Piece) (s : List Char) : List Piece :=
  match _h : hole? s with
  | some (name, rest) => piecesAfter (hole name :: done) rest
  | none =>
    match s with
    | [] => done.reverse
    | c :: s => piecesAfter (char c :: done) s
termination_by s.length
decreasing_by
  · have := length_of_hole? _h
    omega
  · simp

/-- A text taken apart from the left. -/
def pieces (s : List Char) : List Piece :=
  piecesAfter [] s

theorem piecesAfter_hole {s name rest : List Char} (h : hole? s = some (name, rest))
    (done : List Piece) : piecesAfter done s = piecesAfter (hole name :: done) rest := by
  rw [piecesAfter]
  split <;> simp_all

theorem piecesAfter_nil (done : List Piece) : piecesAfter done [] = done.reverse := by
  rw [piecesAfter]
  split
  · next h => simp [hole?] at h
  · rfl

theorem piecesAfter_char {c : Char} {s : List Char} (h : hole? (c :: s) = none)
    (done : List Piece) : piecesAfter done (c :: s) = piecesAfter (char c :: done) s := by
  rw [piecesAfter]
  split <;> simp_all

/-- The pieces before the rest of a text stay in front. -/
theorem piecesAfter_eq (done : List Piece) (s : List Char) :
    piecesAfter done s = done.reverse ++ pieces s := by
  induction hn : s.length using Nat.strongRecOn generalizing done s with
  | ind n ih =>
    subst hn
    unfold pieces
    cases h : hole? s with
    | some p =>
      obtain ⟨name, rest⟩ := p
      have hlt : rest.length < s.length := by
        have := length_of_hole? h
        omega
      rw [piecesAfter_hole h, piecesAfter_hole h, ih _ hlt _ _ rfl, ih _ hlt _ _ rfl]
      simp
    | none =>
      cases s with
      | nil => simp [piecesAfter_nil]
      | cons c s =>
        rw [piecesAfter_char h, piecesAfter_char h, ih _ (by simp) _ _ rfl, ih _ (by simp) _ _ rfl]
        simp

@[simp] theorem pieces_nil : pieces [] = [] := piecesAfter_nil []

/-- A placeholder at the front is the first piece. -/
theorem pieces_hole {s name rest : List Char} (h : hole? s = some (name, rest)) :
    pieces s = hole name :: pieces rest := by
  rw [pieces, piecesAfter_hole h, piecesAfter_eq]
  rfl

/-- A character that opens no placeholder is a piece by itself. -/
theorem pieces_char {c : Char} {s : List Char} (h : hole? (c :: s) = none) :
    pieces (c :: s) = char c :: pieces s := by
  rw [pieces, piecesAfter_char h, piecesAfter_eq]
  rfl

/-- The piece with the values filled in. A name is looked up without the blanks around it; a name
without a value leaves nothing. -/
def fill (values : Variables) : Piece → List Char
  | char c => [c]
  | hole name =>
    match values[String.ofList (trimChars name)]? with
    | some value => Zpl.escapeChars value.toList
    | none => []

end Piece

/-- The document with every placeholder filled. -/
def substitute (document : String) (values : Variables) : String :=
  onChars (fun s => (Piece.pieces s).flatMap (Piece.fill values)) document

end LabelPress
