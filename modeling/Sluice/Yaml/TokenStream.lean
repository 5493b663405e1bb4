import Sluice.Yaml.Token.Block
import Sluice.Yaml.Token.Label
import Sluice.Yaml.Token.Plain
import Sluice.Yaml.Token.Quotation

set_option autoImplicit false

/-! The tokens of a text. Whether an element is the key of a mapping shows only at the colon behind it,
so elements that may turn out to be keys are remembered; a colon puts the key's token, and that of a
mapping that begins with it, in front of the element. Indentation opens and closes blocks. -/

namespace Sluice.Yaml

/-- An element that may be a key. It has to be one if it starts where the entries of the block do. -/
structure KeyCandidate where
  required : Bool
  number : Nat
  mark : Mark

/-- `taken` holds the tokens so far, the newest first; `indents` the columns of the open blocks, the
innermost first; `candidates` one place for each open bracket and, last, one for the text outside of
all. -/
structure Scanner where
  cursor : Cursor
  taken : List Token
  count : Nat
  indents : List Nat
  candidates : List (Option KeyCandidate)
  keyAllowed : Bool

namespace Scanner

def start (characters : List Char) : Scanner :=
  { cursor := .ofCharacters characters, taken := [], count := 0, indents := []
    candidates := [none], keyAllowed := true }

def mark (scanner : Scanner) : Mark :=
  scanner.cursor.mark

def inFlow (scanner : Scanner) : Bool :=
  1 < scanner.candidates.length

def floor (scanner : Scanner) : Nat :=
  match scanner.indents with
  | [] => 0
  | indent :: _ => indent + 1

def insert (scanner : Scanner) (number : Nat) (lexeme : Lexeme) (start : Mark) : Scanner :=
  let split := scanner.taken.splitAt (scanner.count - number)
  { scanner with
    taken := split.1 ++ { lexeme := lexeme, start := start } :: split.2
    count := scanner.count + 1 }

def push (scanner : Scanner) (lexeme : Lexeme) (start : Mark) : Scanner :=
  { scanner with
    taken := { lexeme := lexeme, start := start } :: scanner.taken, count := scanner.count + 1 }

def allowKey (scanner : Scanner) (allowed : Bool) : Scanner :=
  { scanner with keyAllowed := allowed }

def moveTo (scanner : Scanner) (cursor : Cursor) : Scanner :=
  { scanner with cursor := cursor }

/-- The number of tokens that no later character can change. -/
def settled (scanner : Scanner) : Nat :=
  scanner.candidates.foldl
    (fun least candidate => match candidate with
      | none => least
      | some key => min least key.number)
    scanner.count

/-- A key stands on one line and within so many octets. -/
def keySpan : Nat :=
  1024

def outdated (mark : Mark) (key : KeyCandidate) : Bool :=
  key.mark.line < mark.line || key.mark.index + keySpan < mark.index

/-- Gives up the candidates that the text has gone past; one that has to be a key is a fault. -/
def dropOutdated (scanner : Scanner) : Except GrammarFault Scanner := do
  let kept ← scanner.candidates.mapM fun candidate =>
    match candidate with
    | none => .ok none
    | some key =>
        if !outdated scanner.mark key then Except.ok (some key)
        else if key.required then scanner.cursor.fail .simpleKey key.mark .noColon
        else .ok none
  return { scanner with candidates := kept }

def dropCandidate (scanner : Scanner) : Except GrammarFault Scanner :=
  match scanner.candidates with
  | some key :: outer =>
      if key.required then scanner.cursor.fail .simpleKey key.mark .noColon
      else .ok { scanner with candidates := none :: outer }
  | _ => .ok scanner

def addCandidate (scanner : Scanner) : Except GrammarFault Scanner :=
  if !scanner.keyAllowed then .ok scanner
  else do
    let dropped ← scanner.dropCandidate
    let key : KeyCandidate :=
      { required := !scanner.inFlow && scanner.indents.head? = some scanner.mark.column
        number := scanner.count, mark := scanner.mark }
    return { dropped with candidates := some key :: dropped.candidates.drop 1 }

def openBlock (scanner : Scanner) (number : Nat) (lexeme : Lexeme) (start : Mark) : Scanner :=
  if scanner.inFlow || start.column < scanner.floor then scanner
  else { scanner.insert number lexeme start with indents := start.column :: scanner.indents }

def closed (scanner : Scanner) (stays : Nat → Bool) : List Nat → Scanner
  | [] => { scanner with indents := [] }
  | indent :: outer =>
      if stays indent then { scanner with indents := indent :: outer }
      else closed (scanner.push .blockEnd scanner.mark) stays outer

def closeBlocks (scanner : Scanner) (column : Nat) : Scanner :=
  if scanner.inFlow then scanner else closed scanner (· ≤ column) scanner.indents

def closeAllBlocks (scanner : Scanner) : Scanner :=
  if scanner.inFlow then scanner else closed scanner (fun _ => false) scanner.indents

/-- Goes on to the next token, past blanks, comments and line breaks. Outside of brackets a line break
allows a key, and a tab counts as a blank only where no key may stand. A line may start with a byte
order mark. -/
def passGaps (inFlow : Bool) (mark : Mark) (keyAllowed inComment : Bool) :
    List Char → Cursor × Bool
  | [] => ({ rest := [], mark := mark }, keyAllowed)
  | '\r' :: '\n' :: rest => passGaps inFlow (mark.nextLine 2) (keyAllowed || !inFlow) false rest
  | character :: rest =>
      if isBreak character then
        passGaps inFlow (mark.nextLine character.utf8Size) (keyAllowed || !inFlow) false rest
      else if inComment || character = ' ' || (character = '\t' && (inFlow || !keyAllowed))
          || (character = byteOrderMark && mark.column = 0) then
        passGaps inFlow (mark.next character.utf8Size) keyAllowed inComment rest
      else if character = '#' then passGaps inFlow (mark.next 1) keyAllowed true rest
      else ({ rest := character :: rest, mark := mark }, keyAllowed)

def toNextToken (scanner : Scanner) : Scanner :=
  let passed := passGaps scanner.inFlow scanner.mark scanner.keyAllowed false scanner.cursor.rest
  { scanner with cursor := passed.1, keyAllowed := passed.2 }

def takeIndicator (scanner : Scanner) (lexeme : Lexeme) (width : Nat) : Scanner :=
  (scanner.push lexeme scanner.mark).moveTo (scanner.cursor.advance width)

def takeEnd (scanner : Scanner) : Except GrammarFault Scanner := do
  let ended := scanner.moveTo { scanner.cursor with mark := scanner.mark.endOfText }
  let dropped ← ended.closeAllBlocks.dropCandidate
  return (dropped.allowKey false).push .streamEnd dropped.mark

def takeDirective (scanner : Scanner) : Except GrammarFault Scanner := do
  let dropped ← scanner.closeAllBlocks.dropCandidate
  let (lexeme, after) ← Label.scanDirective dropped.cursor
  return ((dropped.allowKey false).push lexeme dropped.mark).moveTo after

def takeDocumentRule (scanner : Scanner) (lexeme : Lexeme) : Except GrammarFault Scanner := do
  let dropped ← scanner.closeAllBlocks.dropCandidate
  return (dropped.allowKey false).takeIndicator lexeme 3

def takeOpening (scanner : Scanner) (lexeme : Lexeme) : Except GrammarFault Scanner := do
  let remembered ← scanner.addCandidate
  let opened := { remembered with candidates := none :: remembered.candidates }
  return (opened.allowKey true).takeIndicator lexeme 1

def takeClosing (scanner : Scanner) (lexeme : Lexeme) : Except GrammarFault Scanner := do
  let dropped ← scanner.dropCandidate
  let outer := if dropped.inFlow then dropped.candidates.drop 1 else dropped.candidates
  return ({ dropped with candidates := outer }.allowKey false).takeIndicator lexeme 1

def takeComma (scanner : Scanner) : Except GrammarFault Scanner := do
  let dropped ← scanner.dropCandidate
  return (dropped.allowKey true).takeIndicator .flowEntry 1

def takeDash (scanner : Scanner) : Except GrammarFault Scanner :=
  if !scanner.inFlow && !scanner.keyAllowed then .error (.bare .entryOutOfPlace scanner.mark)
  else do
    let opened := scanner.openBlock scanner.count .blockSequenceStart scanner.mark
    let dropped ← opened.dropCandidate
    return (dropped.allowKey true).takeIndicator .blockEntry 1

def takeQuestionMark (scanner : Scanner) : Except GrammarFault Scanner :=
  if !scanner.inFlow && !scanner.keyAllowed then .error (.bare .keyOutOfPlace scanner.mark)
  else do
    let opened := scanner.openBlock scanner.count .blockMappingStart scanner.mark
    let dropped ← opened.dropCandidate
    return (dropped.allowKey (!scanner.inFlow)).takeIndicator .key 1

/-- A colon makes a key of the candidate before it; without one, the key is empty. -/
def takeColon (scanner : Scanner) : Except GrammarFault Scanner :=
  match scanner.candidates with
  | some key :: outer =>
      let keyed := scanner.insert key.number .key key.mark
      let opened := keyed.openBlock key.number .blockMappingStart key.mark
      .ok (({ opened with candidates := none :: outer }.allowKey false).takeIndicator .value 1)
  | _ =>
      if !scanner.inFlow && !scanner.keyAllowed then .error (.bare .valueOutOfPlace scanner.mark)
      else
        let opened := scanner.openBlock scanner.count .blockMappingStart scanner.mark
        .ok ((opened.allowKey (!scanner.inFlow)).takeIndicator .value 1)

/-- An element that may be a key, read by `scan`; none may follow it on its line. -/
def takeElement (scanner : Scanner) (scan : Cursor → Except GrammarFault (Lexeme × Cursor)) :
    Except GrammarFault Scanner := do
  let remembered ← scanner.addCandidate
  let (lexeme, after) ← scan remembered.cursor
  return ((remembered.allowKey false).push lexeme remembered.mark).moveTo after

def takeAnchor (scanner : Scanner) (activity : Activity) (lexeme : List Char → Lexeme) :
    Except GrammarFault Scanner :=
  scanner.takeElement fun cursor => do
    let (name, after) ← Label.scanAnchor activity cursor
    return (lexeme name, after)

def takeQuoted (scanner : Scanner) (double : Bool) : Except GrammarFault Scanner :=
  scanner.takeElement fun cursor => do
    let (text, after) ← Quotation.scan double cursor
    return (.scalar text .quoted, after)

def takeBlockScalar (scanner : Scanner) (literal : Bool) : Except GrammarFault Scanner := do
  let dropped ← scanner.dropCandidate
  let (text, after) ← Block.scan literal dropped.floor dropped.cursor
  let style := if literal then ScalarStyle.literal else .folded
  return ((dropped.allowKey true).push (.scalar text style) dropped.mark).moveTo after

/-- After a plain scalar that ran into a new line, a key may follow. -/
def takePlain (scanner : Scanner) : Except GrammarFault Scanner := do
  let remembered ← scanner.addCandidate
  let found ← Plain.scan remembered.inFlow remembered.floor remembered.cursor
  let pushed := (remembered.allowKey found.broken).push (.scalar found.text .plain) remembered.mark
  return pushed.moveTo found.cursor

def isIndicator (character : Char) : Bool :=
  "-?:,[]\x7b\x7d#&*!|>'\"%@`".toList.contains character

def startsPlain (scanner : Scanner) (character : Char) : Bool :=
  let touching := !scanner.cursor.gapAhead 1
  (!isGap character && !isIndicator character)
    || (character = '-' && !(scanner.cursor.ahead? 1).any isBlank)
    || (!scanner.inFlow && (character = '?' || character = ':') && touching)

def takeToken (scanner : Scanner) : Except GrammarFault Scanner :=
  match scanner.cursor.next? with
  | none => scanner.takeEnd
  | some character =>
      let apart := scanner.inFlow || scanner.cursor.gapAhead 1
      if character = '%' && scanner.mark.column = 0 then scanner.takeDirective
      else if scanner.cursor.startsWithRule '-' then scanner.takeDocumentRule .documentStart
      else if scanner.cursor.startsWithRule '.' then scanner.takeDocumentRule .documentEnd
      else if character = '[' then scanner.takeOpening .flowSequenceStart
      else if character = '\x7b' then scanner.takeOpening .flowMappingStart
      else if character = ']' then scanner.takeClosing .flowSequenceEnd
      else if character = '\x7d' then scanner.takeClosing .flowMappingEnd
      else if character = ',' then scanner.takeComma
      else if character = '-' && scanner.cursor.gapAhead 1 then scanner.takeDash
      else if character = '?' && apart then scanner.takeQuestionMark
      else if character = ':' && apart then scanner.takeColon
      else if character = '*' then scanner.takeAnchor .alias .alias
      else if character = '&' then scanner.takeAnchor .anchor .anchor
      else if character = '!' then scanner.takeElement (Label.scanTag scanner.inFlow)
      else if character = '|' && !scanner.inFlow then scanner.takeBlockScalar true
      else if character = '>' && !scanner.inFlow then scanner.takeBlockScalar false
      else if character = '\'' then scanner.takeQuoted false
      else if character = '"' then scanner.takeQuoted true
      else if scanner.startsPlain character then scanner.takePlain
      else scanner.cursor.fail .nextToken scanner.mark .noTokenStart

def advance (scanner : Scanner) : Except GrammarFault Scanner := do
  let ready ← scanner.toNextToken.dropOutdated
  let taken ← (ready.closeBlocks ready.mark.column).takeToken
  taken.dropOutdated

def ended (scanner : Scanner) : Bool :=
  scanner.taken.head?.any fun token => token.lexeme = .streamEnd

def tokens (scanner : Scanner) : List Token :=
  scanner.taken.reverse

end Scanner

/-- Tokens in order, and the fault that comes after the last of them, if the text has one. -/
structure TokenStream where
  tokens : List Token
  fault : Option GrammarFault

namespace TokenStream

/-- How far ahead of a place the text is looked at. -/
def foresight : Nat :=
  4

def faultNear (refused : Option Nat) (size : Nat) (place : Mark) : Option GrammarFault :=
  refused.bind fun offset =>
    if size < place.index + foresight then some (.bare (.refusedCharacter offset) .origin) else none

/-- Takes tokens up to the end or to a fault. A fault hides the tokens that were not settled; where
there is a refused character behind the readable text, its end is not that of the text. -/
def collect (refused : Option Nat) (size : Nat) : Nat → Scanner → TokenStream
  | 0, scanner => { tokens := scanner.tokens, fault := none }
  | fuel + 1, scanner =>
      if scanner.ended then { tokens := scanner.tokens, fault := none }
      else
        let halted (fault : GrammarFault) : TokenStream :=
          { tokens := scanner.tokens.take scanner.settled, fault := some fault }
        match scanner.advance with
        | .error fault => halted ((faultNear refused size fault.mark).getD fault)
        | .ok moved =>
            match faultNear refused size moved.mark with
            | some fault => halted fault
            | none => collect refused size fuel moved

/-- Each token but the last takes at least one character. -/
def ofText (text : String) : TokenStream :=
  let (characters, refused) := readable 0 portionSize [] [] text.toList
  let size := (Mark.origin.along characters).index
  collect refused size (characters.length + 2) (.start characters)

end Sluice.Yaml.TokenStream
