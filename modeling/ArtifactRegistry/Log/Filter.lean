import ArtifactRegistry.Log
import ArtifactRegistry.Text.Split

/-! # Which records are written

A filter is a list of directives with commas between them. A directive sets the level of all records
or of those of a target, which is given by the start of a name; of several directives for a record
the most specific counts. Without any directive only errors are written.
-/

namespace ArtifactRegistry.Log

/-- The name that all records of the program start from. -/
def programName : String := "ocidist"

/-- How grave a record must be, by rank; rank zero lets nothing pass. -/
structure Directive where
  /-- The start of the names the directive is for; the empty one is for all. -/
  target : String
  rank : Nat
deriving DecidableEq, Repr

namespace Directive

/-- The ranks of levels by name. -/
def levelNames : List (String × Nat) :=
  [("off", 0), ("error", 1), ("warn", 2), ("info", 3), ("debug", 4), ("trace", 5)]

/-- The number that digits stand for, which may have a plus sign in front. -/
def number? (text : String) : Option Nat :=
  let digits := if text.toList.head? = some '+' then text.toList.tail else text.toList
  if !digits.isEmpty && digits.all Char.isDigit then
    some (Decimal.ofDigits (digits.map fun c => c.toNat - 48))
  else none

/-- The rank that a name or a number stands for. -/
def rank? (text : String) : Option Nat :=
  match number? text with
  | some number => if number ≤ 5 then some number else none
  | none => levelNames.lookup text.toLower

/-- A directive is a level, a target with all its records, or a target and a level. -/
def parse? (text : String) : Option Directive :=
  match text.toList.head? with
  | none => none
  | some first =>
    if !(first.isAlphanum || ['-', ':', '_'].contains first) then none
    else match Text.splitFirst? '=' text with
      | none =>
        match rank? text with
        | some rank => some ⟨"", rank⟩
        | none => some ⟨text, Level.trace.rank⟩
      | some (target, "") => some ⟨target, Level.trace.rank⟩
      | some (target, level) => (rank? level).map fun rank => ⟨target, rank⟩

/-- Whether the directive is for the records of the program. -/
def applies (directive : Directive) : Bool :=
  directive.target.toList.isPrefixOf programName.toList

end Directive

/-- The highest rank that is written. -/
structure Filter where
  limit : Nat
deriving DecidableEq, Repr

namespace Filter

/-- The filter of some directives; a later one replaces an earlier one for the same target. -/
def ofDirectives (directives : List Directive) : Filter :=
  if directives.isEmpty then ⟨Level.error.rank⟩
  else
    let fitting := directives.filter Directive.applies
    let best := fitting.foldl (fun best directive =>
      match best with
      | none => some directive
      | some other =>
        if directive.target.length < other.target.length then best else some directive)
      (none : Option Directive)
    ⟨best.elim 0 Directive.rank⟩

/-- Reads directives; fails when one of them is none. -/
def parse? (text : String) : Option Filter :=
  if text = "" then some (ofDirectives [])
  else ((Text.splitAll ',' text).mapM Directive.parse?).map ofDirectives

/-- Reads directives and passes over what is none. -/
def parseAny (text : String) : Filter :=
  ofDirectives ((Text.splitAll ',' text).filterMap Directive.parse?)

/-- The filter of a run: what the environment says, if it is well formed, and else the level of the
command line or of the configuration. -/
def choose (environment : Option String) (verbosity : Nat) (configured : String) : Filter :=
  let level := match verbosity with
    | 0 => configured
    | 1 => "debug"
    | _ => "trace"
  (environment.bind parse?).getD (parseAny level)

def passes (filter : Filter) : Output → Bool
  | .record r => r.level.rank ≤ filter.limit
  | .printed _ => true

end Filter

end ArtifactRegistry.Log
