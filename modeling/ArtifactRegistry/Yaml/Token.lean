import ArtifactRegistry.Yaml.Scalar

/-! # Tokens

Collections in block style have no brackets: columns tell where they start and end. The scanner turns
columns into brackets, so that tokens alone fix the structure. Two kinds of state do this.

* The margins of the open block collections. A token left of a margin ends that collection, and an
  entry, key or value that reaches beyond the last margin starts a new one.
* The candidates for keys, one for every level of flow style. A key is known to be one only at the
  colon behind it; its mark then goes before the place that was noted when it started. A key and its
  colon are on one line and not far apart.
-/

namespace ArtifactRegistry.Yaml

inductive Token where
  | documentStart
  | documentEnd
  /-- The start of a sequence in block style. -/
  | sequenceStart
  /-- The start of a mapping in block style. -/
  | mappingStart
  /-- The end of a collection in block style. -/
  | blockEnd
  | flowSequenceStart
  | flowSequenceEnd
  | flowMappingStart
  | flowMappingEnd
  | comma
  | entry
  | key
  | value
  | scalar (text : String) (isPlain : Bool)
deriving DecidableEq, Repr

/-- A place where a key may have started. -/
structure Candidate where
  /-- The number of tokens before it. -/
  place : Nat
  /-- Whether there must be a key, since nothing else can stand at this column. -/
  required : Bool
  index : Nat
  line : Nat
  column : Nat

/-- Keys in front of their colons are at most this long. -/
def keyLimit : Nat := 1024

structure Scanner where
  cursor : Cursor
  /-- The tokens so far, the last one first. -/
  tokens : List Token := []
  /-- The columns right of which contents of the open block collections stand, the innermost
  collection first. -/
  margins : List Nat := []
  /-- The candidate of the current level. -/
  candidate : Option Candidate := none
  /-- The candidates of the levels around it. -/
  outer : List (Option Candidate) := []
  /-- Whether a key may start here. -/
  keyAllowed : Bool := true

namespace Scanner

def inFlow (s : Scanner) : Bool := !s.outer.isEmpty

def margin (s : Scanner) : Nat := s.margins.headD 0

def emit (token : Token) (s : Scanner) : Scanner := { s with tokens := token :: s.tokens }

def advance (count : Nat) (s : Scanner) : Scanner := { s with cursor := s.cursor.skip count }

/-- Puts a token before those that were emitted behind a place. -/
def insertAt (place : Nat) (token : Token) (s : Scanner) : Scanner :=
  let later := s.tokens.length - place
  { s with tokens := s.tokens.take later ++ token :: s.tokens.drop later }

/-- Passes spacing, comments and breaks. A tab may not stand where a key may. -/
def skipSpace (inFlow keyAllowed : Bool) (c : Cursor) : Cursor × Bool :=
  match _ : c.rest with
  | [] => (c, keyAllowed)
  | char :: rest =>
    if isBreak char then skipSpace inFlow (keyAllowed || !inFlow) c.nextLine
    else if char = '#' then
      skipSpace inFlow keyAllowed (c.skip ((rest.takeWhile fun char => !isBreak char).length + 1))
    else if char = ' ' ∨ (char = '\t' ∧ (inFlow ∨ !keyAllowed))
        ∨ (char = '\ufeff' ∧ c.column = 0) then
      skipSpace inFlow keyAllowed (c.skip 1)
    else (c, keyAllowed)
termination_by c.rest.length
decreasing_by
  all_goals
    have some : c.rest ≠ [] := by simp [*]
    first
    | exact Cursor.nextLine_lt some
    | exact Cursor.skip_lt some (by omega)

/-- Ends the block collections that a column is left of. -/
def closeBlocks (margin : Nat) (s : Scanner) : Scanner :=
  let closed := s.margins.takeWhile (margin < ·)
  { s with
    margins := s.margins.dropWhile (margin < ·)
    tokens := List.replicate closed.length .blockEnd ++ s.tokens }

/-- Starts a block collection at a column, unless the innermost one stands there already. -/
def openBlock (column place : Nat) (token : Token) (s : Scanner) : Scanner :=
  if s.inFlow ∨ column < s.margin then s
  else insertAt place token { s with margins := (column + 1) :: s.margins }

/-- Gives up a candidate; one that is required must have become a key by now. -/
def giveUp : Option Candidate → Except SyntaxError (Option Candidate)
  | some candidate => if candidate.required then .error .colonExpected else .ok none
  | none => .ok none

def dropCandidate (s : Scanner) : Except SyntaxError Scanner :=
  (giveUp s.candidate).map fun candidate => { s with candidate }

/-- Gives up the candidates whose colon can no longer come. -/
def dropStale (s : Scanner) : Except SyntaxError Scanner := do
  let check (candidate : Option Candidate) : Except SyntaxError (Option Candidate) :=
    match candidate with
    | some k =>
      if k.line < s.cursor.line ∨ k.index + keyLimit < s.cursor.index then giveUp candidate
      else .ok candidate
    | none => .ok none
  let candidate ← check s.candidate
  let outer ← s.outer.mapM check
  return { s with candidate, outer }

/-- Notes that a key may start here. -/
def noteCandidate (s : Scanner) : Except SyntaxError Scanner := do
  if !s.keyAllowed then return s
  let s ← s.dropCandidate
  let required := !s.inFlow && s.margin = s.cursor.column + 1
  return { s with
    candidate :=
      some ⟨s.tokens.length, required, s.cursor.index, s.cursor.line, s.cursor.column⟩ }

/-- Ends a document or the text: all block collections end. -/
def endBlocks (s : Scanner) : Except SyntaxError Scanner := do
  let s ← (s.closeBlocks 0).dropCandidate
  return { s with keyAllowed := false }

def openFlow (token : Token) (s : Scanner) : Except SyntaxError Scanner := do
  let s ← s.noteCandidate
  return { s.emit token with
    candidate := none, outer := s.candidate :: s.outer, keyAllowed := true }.advance 1

def closeFlow (token : Token) (s : Scanner) : Except SyntaxError Scanner := do
  let s ← s.dropCandidate
  return { s.emit token with
    candidate := s.outer.headD none, outer := s.outer.tail, keyAllowed := false }.advance 1

def comma (s : Scanner) : Except SyntaxError Scanner := do
  let s ← s.dropCandidate
  return { s.emit .comma with keyAllowed := true }.advance 1

/-- The mark of an entry of a block sequence. -/
def entry (s : Scanner) : Except SyntaxError Scanner := do
  if !s.inFlow ∧ !s.keyAllowed then throw .misplacedEntry
  let s ← (s.openBlock s.cursor.column s.tokens.length .sequenceStart).dropCandidate
  return { s.emit .entry with keyAllowed := true }.advance 1

/-- The mark of a key of any form. -/
def key (s : Scanner) : Except SyntaxError Scanner := do
  if !s.inFlow ∧ !s.keyAllowed then throw .misplacedKey
  let s ← (s.openBlock s.cursor.column s.tokens.length .mappingStart).dropCandidate
  return { s.emit .key with keyAllowed := !s.inFlow }.advance 1

/-- The mark of a value. What stands before it on the line becomes a key. -/
def value (s : Scanner) : Except SyntaxError Scanner := do
  match s.candidate with
  | some k =>
    let s := (s.insertAt k.place .key).openBlock k.column k.place .mappingStart
    return { s.emit .value with candidate := none, keyAllowed := false }.advance 1
  | none =>
    if !s.inFlow ∧ !s.keyAllowed then throw .misplacedValue
    let s := s.openBlock s.cursor.column s.tokens.length .mappingStart
    return { s.emit .value with keyAllowed := !s.inFlow }.advance 1

def quotedScalar (quote : Char) (s : Scanner) : Except SyntaxError Scanner := do
  let s ← s.noteCandidate
  let (text, cursor) ← quoted quote [] .none (s.cursor.skip 1)
  return { s.emit (.scalar text false) with cursor, keyAllowed := false }

def plainScalar (s : Scanner) : Except SyntaxError Scanner := do
  let s ← s.noteCandidate
  let (text, wentOver, cursor) ← plain s.inFlow s.margin [] .none s.cursor
  return { s.emit (.scalar text true) with cursor, keyAllowed := wentOver }

/-- The characters that start something else than a plain scalar. -/
def marks : List Char :=
  ['-', '?', ':', ',', '[', ']', '\x7b', '\x7d', '#', '&', '*', '!', '|', '>', '\'', '"', '%', '@',
    '\x60']

/-- Whether a plain scalar starts with a character, given what is behind it. -/
def startsPlain (inFlow : Bool) (char : Char) (rest : List Char) : Bool :=
  !(isSpacing char || marks.contains char)
    || (char = '-' && !rest.head?.any isSpacing)
    || (!inFlow && (char = '?' || char = ':') && !endsWord rest)

/-- Reads one token, with the ends and starts of blocks before it. There is none at the end. -/
def next (s : Scanner) : Except SyntaxError (Option Scanner) := do
  let (cursor, keyAllowed) := skipSpace s.inFlow s.keyAllowed s.cursor
  let s ← { s with cursor, keyAllowed }.dropStale
  let s := if s.inFlow then s else s.closeBlocks (s.cursor.column + 1)
  match s.cursor.rest with
  | [] => return none
  | char :: rest =>
    if char = '%' ∧ s.cursor.column = 0 then throw .directive
    else if s.cursor.atMarker '-' then return ((← s.endBlocks).emit .documentStart).advance 3
    else if s.cursor.atMarker '.' then return ((← s.endBlocks).emit .documentEnd).advance 3
    else if char = '[' then s.openFlow .flowSequenceStart
    else if char = '\x7b' then s.openFlow .flowMappingStart
    else if char = ']' then s.closeFlow .flowSequenceEnd
    else if char = '\x7d' then s.closeFlow .flowMappingEnd
    else if char = ',' then s.comma
    else if char = '-' ∧ endsWord rest then s.entry
    else if char = '?' ∧ (s.inFlow ∨ endsWord rest) then s.key
    else if char = ':' ∧ (s.inFlow ∨ endsWord rest) then s.value
    else if char = '\'' ∨ char = '"' then s.quotedScalar char
    else if startsPlain s.inFlow char rest then s.plainScalar
    else throw .noToken

/-- Reads at most a number of tokens. -/
def run : Nat → Scanner → Except SyntaxError Scanner
  | 0, s => .ok s
  | count + 1, s => do
    match ← s.next with
    | some s => run count s
    | none => return s

end Scanner

/-- The characters that may stand in a text. -/
def isAllowed (c : Char) : Bool :=
  let code := c.toNat
  c = '\t' || c = '\n' || c = '\r' || (0x20 ≤ code && code ≤ 0x7e) || code = 0x85
    || (0xa0 ≤ code && code ≤ 0xfffd) || 0x10000 ≤ code

/-- The tokens of a text. Every token but the ends of blocks takes a character. -/
def Token.scan (text : String) : Except SyntaxError (List Token) := do
  let chars := if text.toList.head? = some '\ufeff' then text.toList.tail else text.toList
  if !chars.all isAllowed then throw .controlCharacter
  let s ← Scanner.run chars.length { cursor := { rest := chars } }
  let (cursor, keyAllowed) := Scanner.skipSpace s.inFlow s.keyAllowed s.cursor
  let s ← { s with cursor, keyAllowed }.dropStale
  let s ← if s.inFlow then s.dropCandidate else s.endBlocks
  return s.tokens.reverse

end ArtifactRegistry.Yaml
