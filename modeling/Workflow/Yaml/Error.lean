/-! Why a YAML text is rejected. -/

namespace Workflow.Yaml

inductive Error
  | controlCharacter
  | cannotStartToken
  | tabIndentation
  | missingColon
  | misplacedEntry
  | misplacedKey
  | misplacedValue
  | unexpectedColon
  | unclosedQuote
  | unknownEscape
  | malformedBlockHeader
  | malformedAnchor
  | malformedTag
  | malformedDirective
  | repeatedDirective
  | unsupportedVersion
  | undefinedAnchor (name : String)
  | undefinedHandle (handle : String)
  | unexpectedToken
  | secondDocument
  | expected (what : String)
  | duplicateField (name : String)
  deriving DecidableEq

namespace Error

def message : Error → String
  | controlCharacter => "control characters are not allowed"
  | cannotStartToken => "found character that cannot start any token"
  | tabIndentation => "found a tab character where indentation is expected"
  | missingColon => "could not find expected ':'"
  | misplacedEntry => "block sequence entries are not allowed in this context"
  | misplacedKey => "mapping keys are not allowed in this context"
  | misplacedValue => "mapping values are not allowed in this context"
  | unexpectedColon => "found unexpected ':'"
  | unclosedQuote => "found unexpected end of a quoted scalar"
  | unknownEscape => "found unknown escape character"
  | malformedBlockHeader => "did not find expected comment or line break"
  | malformedAnchor => "did not find expected alphabetic or numeric character"
  | malformedTag => "did not find expected tag"
  | malformedDirective => "did not find expected directive"
  | repeatedDirective => "found a directive for the second time"
  | unsupportedVersion => "found a version of the format that is not supported"
  | undefinedAnchor name => "unknown anchor " ++ name
  | undefinedHandle handle => "found undefined tag handle " ++ handle
  | unexpectedToken => "did not find expected node content"
  | secondDocument => "deserializing from YAML containing more than one document is not supported"
  | expected what => "invalid type: expected " ++ what
  | duplicateField name => "duplicate field " ++ name

end Error

end Workflow.Yaml
