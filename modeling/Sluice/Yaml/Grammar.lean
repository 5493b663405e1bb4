import Sluice.Yaml.Mark

set_option autoImplicit false

/-! Why a text is not in the grammar: what is wrong, where, and what was being read at the time. -/

namespace Sluice.Yaml

inductive Activity where
  | simpleKey
  | nextToken
  | directive
  | versionDirective
  | tagDirective
  | tagDirectiveHandle
  | tagDirectiveEnd
  | tagDirectiveAddress
  | anchor
  | alias
  | tag
  | tagAddress
  | blockScalar
  | quotedScalar
  | quotedCharacter
  | plainScalar
  | node
  | blockNode
  | flowNode
  | blockCollection
  | blockMapping
  | flowSequence
  | flowMapping
deriving DecidableEq

def Activity.text : Activity → String
  | .simpleKey => "while scanning a simple key"
  | .nextToken => "while scanning for the next token"
  | .directive => "while scanning a directive"
  | .versionDirective => "while scanning a %YAML directive"
  | .tagDirective => "while scanning a %TAG directive"
  | .tagDirectiveHandle => "while scanning a tag directive"
  | .tagDirectiveEnd => "while parsing a tag directive"
  | .tagDirectiveAddress => "while parsing a %TAG directive"
  | .anchor => "while scanning an anchor"
  | .alias => "while scanning an alias"
  | .tag => "while scanning a tag"
  | .tagAddress => "while parsing a tag"
  | .blockScalar => "while scanning a block scalar"
  | .quotedScalar => "while scanning a quoted scalar"
  | .quotedCharacter => "while parsing a quoted scalar"
  | .plainScalar => "while scanning a plain scalar"
  | .node => "while parsing a node"
  | .blockNode => "while parsing a block node"
  | .flowNode => "while parsing a flow node"
  | .blockCollection => "while parsing a block collection"
  | .blockMapping => "while parsing a block mapping"
  | .flowSequence => "while parsing a flow sequence"
  | .flowMapping => "while parsing a flow mapping"

inductive Problem where
  /-- A character that no text may hold, behind so many octets. -/
  | refusedCharacter (offset : Nat)
  | noColon
  | noTokenStart
  | entryOutOfPlace
  | keyOutOfPlace
  | valueOutOfPlace
  | unknownDirective
  | noDirectiveName
  | unexpectedInDirectiveName
  | noCommentOrBreak
  | noVersionPoint
  | noVersionNumber
  | longVersionNumber
  | noBlank
  | noBlankOrBreak
  | noExclamation
  | noClosingBracket
  | noTagAddress
  | noEscapedOctet
  | badLeadingOctet
  | badTrailingOctet
  | noAnchorName
  | zeroIndentation
  | tabInIndentation
  | tabInPlainScalar
  | documentMarkInQuotes
  | endInQuotes
  | unknownEscape
  | noHexDigits
  | badCodePoint
  | unexpectedColon
  | noDocumentStart
  | duplicateVersion
  | incompatibleVersion
  | duplicateTagHandle
  | undefinedTagHandle
  | noNodeContent
  | noDash
  | noKey
  | noCommaOrBracket
  | noCommaOrBrace
deriving DecidableEq

def Problem.text : Problem → String
  | .refusedCharacter offset =>
      "control characters are not allowed" ++
        (if offset = 0 then "" else " at position " ++ toString offset)
  | .noColon => "could not find expected ':'"
  | .noTokenStart => "found character that cannot start any token"
  | .entryOutOfPlace => "block sequence entries are not allowed in this context"
  | .keyOutOfPlace => "mapping keys are not allowed in this context"
  | .valueOutOfPlace => "mapping values are not allowed in this context"
  | .unknownDirective => "found unknown directive name"
  | .noDirectiveName => "could not find expected directive name"
  | .unexpectedInDirectiveName => "found unexpected non-alphabetical character"
  | .noCommentOrBreak => "did not find expected comment or line break"
  | .noVersionPoint => "did not find expected digit or '.' character"
  | .noVersionNumber => "did not find expected version number"
  | .longVersionNumber => "found extremely long version number"
  | .noBlank => "did not find expected whitespace"
  | .noBlankOrBreak => "did not find expected whitespace or line break"
  | .noExclamation => "did not find expected '!'"
  | .noClosingBracket => "did not find the expected '>'"
  | .noTagAddress => "did not find expected tag URI"
  | .noEscapedOctet => "did not find URI escaped octet"
  | .badLeadingOctet => "found an incorrect leading UTF-8 octet"
  | .badTrailingOctet => "found an incorrect trailing UTF-8 octet"
  | .noAnchorName => "did not find expected alphabetic or numeric character"
  | .zeroIndentation => "found an indentation indicator equal to 0"
  | .tabInIndentation => "found a tab character where an indentation space is expected"
  | .tabInPlainScalar => "found a tab character that violates indentation"
  | .documentMarkInQuotes => "found unexpected document indicator"
  | .endInQuotes => "found unexpected end of stream"
  | .unknownEscape => "found unknown escape character"
  | .noHexDigits => "did not find expected hexadecimal number"
  | .badCodePoint => "found invalid Unicode character escape code"
  | .unexpectedColon => "found unexpected ':'"
  | .noDocumentStart => "did not find expected <document start>"
  | .duplicateVersion => "found duplicate %YAML directive"
  | .incompatibleVersion => "found incompatible YAML document"
  | .duplicateTagHandle => "found duplicate %TAG directive"
  | .undefinedTagHandle => "found undefined tag handle"
  | .noNodeContent => "did not find expected node content"
  | .noDash => "did not find expected '-' indicator"
  | .noKey => "did not find expected key"
  | .noCommaOrBracket => "did not find expected ',' or ']'"
  | .noCommaOrBrace => "did not find expected ',' or '\x7d'"

structure GrammarFault where
  problem : Problem
  mark : Mark
  context : Option (Activity × Mark)
deriving DecidableEq

namespace GrammarFault

def during (activity : Activity) (since : Mark) (problem : Problem) (mark : Mark) : GrammarFault :=
  { problem := problem, mark := mark, context := some (activity, since) }

def bare (problem : Problem) (mark : Mark) : GrammarFault :=
  { problem := problem, mark := mark, context := none }

/-- The place of the context is told only where it differs from the place of the problem. -/
def text (fault : GrammarFault) : String :=
  let told := fault.problem.text ++ fault.mark.remark
  match fault.context with
  | none => told
  | some (activity, since) =>
      told ++ ", " ++ activity.text ++
        (if since.sameSpot fault.mark then "" else since.remark)

end Sluice.Yaml.GrammarFault
