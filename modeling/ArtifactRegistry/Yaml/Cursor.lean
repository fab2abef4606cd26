/-! # Places in a text

A cursor stands between two characters of a text. It knows what is still to be read and the line and
column it stands at. Lines end at any of the breaks of the format; a carriage return and a line feed
behind it are one break.
-/

namespace ArtifactRegistry.Yaml

/-- The characters between words of a line. -/
def isSpacing (c : Char) : Bool := c = ' ' || c = '\t'

/-- The characters between lines. -/
def isBreak (c : Char) : Bool :=
  c = '\n' || c = '\r' || c = '\u0085' || c = '\u2028' || c = '\u2029'

/-- The break as it appears in the text of a scalar. -/
def breakText (c : Char) : Char := if c = '\u2028' || c = '\u2029' then c else '\n'

/-- Whether a rest of text starts with spacing or a break, or is empty. -/
def endsWord : List Char → Bool
  | [] => true
  | c :: _ => isSpacing c || isBreak c

structure Cursor where
  rest : List Char
  /-- The number of characters before the cursor. -/
  index : Nat := 0
  line : Nat := 0
  column : Nat := 0

namespace Cursor

/-- Passes characters of the current line. -/
def skip (count : Nat) (c : Cursor) : Cursor :=
  { c with rest := c.rest.drop count, index := c.index + count, column := c.column + count }

/-- Passes a break. -/
def nextLine (c : Cursor) : Cursor :=
  match c.rest with
  | '\r' :: '\n' :: rest => ⟨rest, c.index + 2, c.line + 1, 0⟩
  | rest => ⟨rest.drop 1, c.index + 1, c.line + 1, 0⟩

theorem skip_lt {c : Cursor} {count : Nat} (some : c.rest ≠ []) (positive : 0 < count) :
    (c.skip count).rest.length < c.rest.length := by
  have := List.length_pos_iff.mpr some
  simp only [skip, List.length_drop]; omega

theorem nextLine_lt {c : Cursor} (some : c.rest ≠ []) :
    c.nextLine.rest.length < c.rest.length := by
  have := List.length_pos_iff.mpr some
  rw [nextLine]; split
  · next equation => rw [equation]; simp only [List.length_cons]; omega
  · simp only [List.length_drop]; omega

/-- Whether a line of three equal marks stands here, the start or end of a document. -/
def atMarker (mark : Char) (c : Cursor) : Bool :=
  c.column = 0 && c.rest.take 3 = [mark, mark, mark] && endsWord (c.rest.drop 3)

/-- Whether a document starts or ends here. -/
def atDocumentEdge (c : Cursor) : Bool := c.atMarker '-' || c.atMarker '.'

end Cursor

end ArtifactRegistry.Yaml
