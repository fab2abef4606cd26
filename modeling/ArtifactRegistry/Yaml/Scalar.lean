import ArtifactRegistry.Bytes
import ArtifactRegistry.Yaml.Cursor
import ArtifactRegistry.Yaml.Error

/-! # Scalars

A scalar may go over several lines. What stands between two of its words, a gap, is kept when it is
spacing within a line, and folded when it goes over lines: one break becomes a space, and of several
breaks the first is dropped. Spacing at the ends of lines never counts. A plain scalar has no quotes
and no escapes, and ends where the structure around it goes on.
-/

namespace ArtifactRegistry.Yaml

/-- What was read since the last word. -/
inductive Gap where
  /-- Spacing within a line, the last character first. -/
  | spacing (reversed : List Char)
  /-- Breaks: the first, unless it was escaped, and the others, the last one first. -/
  | lines (first : Option Char) (others : List Char)

namespace Gap

def none : Gap := spacing []

def isNone : Gap → Bool
  | spacing reversed => reversed.isEmpty
  | lines .. => false

def hasBreak : Gap → Bool
  | spacing _ => false
  | lines .. => true

def addSpacing (c : Char) : Gap → Gap
  | spacing reversed => spacing (c :: reversed)
  | lines first others => lines first others

def addBreak (c : Char) : Gap → Gap
  | spacing _ => lines (some (breakText c)) []
  | lines first others => lines first (breakText c :: others)

/-- What the gap stands for, the last character first. -/
def folded : Gap → List Char
  | spacing reversed => reversed
  | lines (some '\n') [] => [' ']
  | lines (some '\n') others => others
  | lines first others => others ++ first.toList

end Gap

/-- The letters of escapes and what they stand for. -/
def namedEscapes : List (Char × Char) :=
  [('0', '\x00'), ('a', '\x07'), ('b', '\x08'), ('t', '\t'), ('\t', '\t'), ('n', '\n'),
    ('v', '\x0b'), ('f', '\x0c'), ('r', '\r'), ('e', '\x1b'), (' ', ' '), ('"', '"'), ('/', '/'),
    ('\\', '\\'), ('N', '\u0085'), ('_', '\u00a0'), ('L', '\u2028'), ('P', '\u2029')]

/-- The letters of escapes by code point, and their numbers of digits. -/
def numericEscapes : List (Char × Nat) := [('x', 2), ('u', 4), ('U', 8)]

/-- The character with a hexadecimal code point. -/
def characterOf (digits : List Char) : Except SyntaxError Char := do
  let code ← digits.foldlM (fun code digit =>
    match hexValue? digit with
    | some value => .ok (code * 16 + value)
    | none => .error .hexadecimalExpected) 0
  if h : code.isValidChar then return Char.ofNatAux code h else throw .noSuchCharacter
where
  hexValue? (digit : Char) : Option Nat :=
    if digit.toNat < 128 then Bytes.hexDigit? (UInt8.ofNat digit.toNat) else none

/-- The character of an escape, from the text after its backslash, and the number of characters
that the escape has after the backslash. -/
def escape : List Char → Except SyntaxError (Char × Nat)
  | [] => .error .unknownEscape
  | letter :: rest =>
    match namedEscapes.lookup letter, numericEscapes.lookup letter with
    | some c, _ => .ok (c, 1)
    | none, some count =>
      if (rest.take count).length < count then .error .hexadecimalExpected
      else (characterOf (rest.take count)).map fun c => (c, count + 1)
    | none, none => .error .unknownEscape

/-- Reads a quoted scalar from behind its first quote. The text is collected in reverse. -/
def quoted (quote : Char) (text : List Char) (gap : Gap) (c : Cursor) :
    Except SyntaxError (String × Cursor) :=
  match _ : c.rest with
  | [] => .error .unclosedQuote
  | char :: rest =>
    if c.atDocumentEdge then .error .edgeInQuote
    else if isBreak char then quoted quote text (gap.addBreak char) c.nextLine
    else if isSpacing char then quoted quote text (gap.addSpacing char) (c.skip 1)
    else
      let text := gap.folded ++ text
      if char = quote then
        if quote = '\'' ∧ rest.head? = some quote then quoted quote (quote :: text) .none (c.skip 2)
        else .ok (String.ofList text.reverse, c.skip 1)
      else if quote = '"' ∧ char = '\\' then
        if rest.head?.any isBreak then quoted quote text (.lines none []) (c.skip 1).nextLine
        else
          match escape rest with
          | .ok (escaped, count) => quoted quote (escaped :: text) .none (c.skip (count + 1))
          | .error error => .error error
      else quoted quote (char :: text) .none (c.skip 1)
termination_by c.rest.length
decreasing_by
  all_goals
    have some : c.rest ≠ [] := by simp [*]
    first
    | exact Cursor.nextLine_lt some
    | exact Cursor.skip_lt some (by omega)
    | skip
  have shorter : (c.skip 1).rest.length < c.rest.length := Cursor.skip_lt some (by omega)
  by_cases last : (c.skip 1).rest = []
  · simp_all [Cursor.skip]
  · have := Cursor.nextLine_lt last
    omega

/-- What ends a plain scalar or is refused in it, apart from gaps: a colon at the end of a word, and
the marks of collections inside of one. -/
def plainEnd (inFlow : Bool) (char : Char) (rest : List Char) : Bool :=
  (char = ':' && endsWord rest) || (inFlow && [',', '[', ']', '\x7b', '\x7d'].contains char)

/-- Whether a colon stands right before a mark of a collection. -/
def colonBeforeMark (char : Char) (rest : List Char) : Bool :=
  char = ':' && rest.head?.any [',', '?', '[', ']', '\x7b', '\x7d'].contains

/-- Reads a plain scalar. Lines that go on with it must not start before the margin. Also tells
whether the gap behind the scalar goes over lines. -/
def plain (inFlow : Bool) (margin : Nat) (text : List Char) (gap : Gap) (c : Cursor) :
    Except SyntaxError (String × Bool × Cursor) :=
  let done := (String.ofList text.reverse, gap.hasBreak, c)
  match _ : c.rest with
  | [] => .ok done
  | char :: rest =>
    if isBreak char then plain inFlow margin text (gap.addBreak char) c.nextLine
    else if isSpacing char then
      if gap.hasBreak ∧ c.column < margin ∧ char = '\t' then .error .tabInIndentation
      else plain inFlow margin text (gap.addSpacing char) (c.skip 1)
    else if !gap.isNone ∧ (c.atDocumentEdge ∨ char = '#' ∨ (!inFlow ∧ c.column < margin)) then
      .ok done
    else if inFlow ∧ colonBeforeMark char rest then .error .colonInFlow
    else if plainEnd inFlow char rest then .ok done
    else plain inFlow margin (char :: gap.folded ++ text) .none (c.skip 1)
termination_by c.rest.length
decreasing_by
  all_goals
    have some : c.rest ≠ [] := by simp [*]
    first
    | exact Cursor.nextLine_lt some
    | exact Cursor.skip_lt some (by omega)

end ArtifactRegistry.Yaml
