/-! # Why a text is no document -/

namespace ArtifactRegistry.Yaml

inductive SyntaxError where
  | controlCharacter
  | tabInIndentation
  | unclosedQuote
  | edgeInQuote
  | unknownEscape
  | hexadecimalExpected
  | noSuchCharacter
  | noToken
  | directive
  | colonExpected
  | colonInFlow
  | misplacedEntry
  | misplacedKey
  | misplacedValue
  | nodeExpected
  | entryExpected
  | keyExpected
  | commaOrBracketExpected
  | commaOrBraceExpected
  | severalDocuments
deriving DecidableEq, Repr

def SyntaxError.message : SyntaxError → String
  | controlCharacter => "control characters are not allowed"
  | tabInIndentation => "found a tab character that violates indentation"
  | unclosedQuote => "found unexpected end of stream"
  | edgeInQuote => "found unexpected document indicator"
  | unknownEscape => "found unknown escape character"
  | hexadecimalExpected => "did not find expected hexdecimal number"
  | noSuchCharacter => "found invalid Unicode character escape code"
  | noToken => "found character that cannot start any token"
  | directive => "found unknown directive name"
  | colonExpected => "could not find expected ':'"
  | colonInFlow => "found unexpected ':'"
  | misplacedEntry => "block sequence entries are not allowed in this context"
  | misplacedKey => "mapping keys are not allowed in this context"
  | misplacedValue => "mapping values are not allowed in this context"
  | nodeExpected => "did not find expected node content"
  | entryExpected => "did not find expected '-' indicator"
  | keyExpected => "did not find expected key"
  | commaOrBracketExpected => "did not find expected ',' or ']'"
  | commaOrBraceExpected => "did not find expected ',' or \x7d"
  | severalDocuments =>
    "deserializing from YAML containing more than one document is not supported"

end ArtifactRegistry.Yaml
