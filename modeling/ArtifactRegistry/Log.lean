import ArtifactRegistry.Json.Printer

/-! # Log records

What an operation reports on the side: a severity, a message and named values in order. A record is
written as one line, either as text or as JSON.
-/

namespace ArtifactRegistry.Log

/-- How records are written. -/
inductive Format where
  | text
  | json
deriving DecidableEq, Repr

/-- Severities, the gravest first. -/
inductive Level where
  | error
  | warn
  | info
  | debug
  | trace
deriving DecidableEq, Repr

namespace Level

def rank : Level → Nat
  | error => 1
  | warn => 2
  | info => 3
  | debug => 4
  | trace => 5

def name : Level → String
  | error => "ERROR"
  | warn => "WARN"
  | info => "INFO"
  | debug => "DEBUG"
  | trace => "TRACE"

end Level

/-- A named value. Words stand bare in text lines and strings between quotes. -/
inductive Value where
  | word (text : String)
  | string (text : String)
  | number (value : Int)
  | boolean (value : Bool)
deriving DecidableEq, Repr

def Value.toText : Value → String
  | word text => text
  | string text => Text.quote text
  | number value => toString value
  | boolean value => toString value

def Value.toJson : Value → Json.Value
  | word text | string text => .string text
  | number value => .ofInt value
  | boolean value => .boolean value

structure Record where
  level : Level
  message : String
  fields : List (String × Value)
deriving DecidableEq, Repr

namespace Record

/-- The level, the message and every value behind its name. -/
def toText (record : Record) : String :=
  String.intercalate " " <|
    [record.level.name, record.message]
      ++ record.fields.map fun field => s!"{field.1}={field.2.toText}"

/-- The level, and the message among the values. -/
def toJson (record : Record) : Json.Value :=
  .object [("level", .string record.level.name),
    ("fields", .object <| ("message", .string record.message)
      :: record.fields.map fun field => (field.1, field.2.toJson))]

end Record

/-- What an operation writes: log records, and text for its caller. -/
inductive Output where
  | record (record : Record)
  | printed (text : String)
deriving DecidableEq, Repr

namespace Output

/-- The text for the caller, if it is that. -/
def text? : Output → Option String
  | .record _ => none
  | .printed text => some text

/-- The log record, if it is one. -/
def record? : Output → Option Record
  | .record r => some r
  | .printed _ => none

end Output

end ArtifactRegistry.Log
