import Sluice.Yaml.TokenStream

set_option autoImplicit false

/-! The nodes of a text as a flat run of events. What may come next is a stack of expectations; each
step meets the topmost, most often by the token at hand, sometimes by leaving a node empty. -/

namespace Sluice.Yaml

structure Properties where
  anchor : Option (List Char)
  tag : Option Tag

inductive Event where
  | documentStart
  | documentEnd
  | streamEnd
  | alias (name : List Char)
  | scalar (properties : Properties) (text : List Char) (style : ScalarStyle)
  | sequenceStart (properties : Properties)
  | sequenceEnd
  | mappingStart (properties : Properties)
  | mappingEnd

inductive Expectation where
  /-- Another document, which needs a mark at its start unless it is the first. -/
  | document (first : Bool)
  | documentContent
  | documentEnd
  /-- A node; `block` and `dashes` tell whether it may be a block, and a sequence without indentation. -/
  | node (block dashes : Bool)
  | blockEntry (since : Mark)
  | dashEntry
  | blockKey (since : Mark)
  | blockValue
  | flowEntry (first : Bool) (since : Mark)
  | pairKey
  | pairValue
  | pairEnd
  | flowKey (first : Bool) (since : Mark)
  | flowValue
  | flowNoValue
deriving DecidableEq

structure EventReader where
  tokens : List Token
  fault : Option GrammarFault
  pending : List Expectation
  handles : List (List Char × List UInt8)

/-- A step that cannot go on has the fault to blame, or nothing where the tokens just end. -/
abbrev EventStep :=
  Except (Option GrammarFault)

namespace EventReader

def standardHandles : List (List Char × List UInt8) :=
  [("!".toList, Tag.spell "!".toList), ("!!".toList, (Tag.standard "").octets)]

def ofTokens (stream : TokenStream) : EventReader :=
  { tokens := stream.tokens, fault := stream.fault, pending := [.document true], handles := [] }

def peek (reader : EventReader) : EventStep Token :=
  match reader.tokens with
  | [] => .error reader.fault
  | token :: _ => .ok token

def skip (reader : EventReader) : EventReader :=
  { reader with tokens := reader.tokens.drop 1 }

def expect (reader : EventReader) (expectations : List Expectation) : EventReader :=
  { reader with pending := expectations ++ reader.pending.drop 1 }

def fail {α : Type} (fault : GrammarFault) : EventStep α :=
  .error (some fault)

abbrev Stepped :=
  List (Event × Mark) × EventReader

def silently (reader : EventReader) : EventStep Stepped :=
  .ok ([], reader)

def emit (event : Event) (mark : Mark) (reader : EventReader) : EventStep Stepped :=
  .ok ([(event, mark)], reader)

def emptyScalar : Event :=
  .scalar { anchor := none, tag := none } [] .plain

def emitEmpty (mark : Mark) (reader : EventReader) : EventStep Stepped :=
  emit emptyScalar mark reader

def readDirectives (reader : EventReader) (version : Bool)
    (handles : List (List Char × List UInt8)) : List Token → EventStep EventReader
  | [] => .error reader.fault
  | token :: rest =>
      match token.lexeme with
      | .versionDirective major minor =>
          if version then fail (.bare .duplicateVersion token.start)
          else if major ≠ 1 || (minor ≠ 1 && minor ≠ 2) then
            fail (.bare .incompatibleVersion token.start)
          else readDirectives reader true handles rest
      | .tagDirective handle expansion =>
          if (handles.lookup handle).isSome then fail (.bare .duplicateTagHandle token.start)
          else readDirectives reader version (handles ++ [(handle, expansion)]) rest
      | _ => .ok { reader with tokens := token :: rest, handles := handles ++ standardHandles }

def skipDocumentEnds (reader : EventReader) : EventReader :=
  { reader with tokens := reader.tokens.dropWhile fun token => token.lexeme = .documentEnd }

def stepDocument (first : Bool) (reader : EventReader) : EventStep Stepped := do
  let ready := if first then reader else reader.skipDocumentEnds
  let token ← ready.peek
  match token.lexeme with
  | .streamEnd => emit .streamEnd token.start { ready with pending := [] }
  | .versionDirective _ _ | .tagDirective _ _ | .documentStart => explicit ready token
  | _ =>
      if first then
        emit .documentStart token.start
          { ready.expect [.node true false, .documentEnd] with handles := standardHandles }
      else explicit ready token
where
  explicit (ready : EventReader) (token : Token) : EventStep Stepped := do
    let directed ← readDirectives ready false [] ready.tokens
    let mark ← directed.peek
    if mark.lexeme = .documentStart then
      emit .documentStart token.start (directed.skip.expect [.documentContent, .documentEnd])
    else fail (.bare .noDocumentStart mark.start)

def stepContent (reader : EventReader) : EventStep Stepped := do
  let token ← reader.peek
  match token.lexeme with
  | .versionDirective _ _ | .tagDirective _ _ | .documentStart | .documentEnd | .streamEnd =>
      emitEmpty token.start (reader.expect [])
  | _ => silently (reader.expect [.node true false])

def stepDocumentEnd (reader : EventReader) : EventStep Stepped := do
  let token ← reader.peek
  let after := if token.lexeme = .documentEnd then reader.skip else reader
  emit .documentEnd token.start (after.expect [.document false])

structure Preamble where
  anchor : Option (List Char)
  tag : Option (List Char × List UInt8)
  start : Option Mark
  tagMark : Option Mark

def readPreamble (reader : EventReader) : EventStep (Preamble × EventReader) := do
  let first ← reader.peek
  match first.lexeme with
  | .anchor name =>
      let second ← reader.skip.peek
      match second.lexeme with
      | .tag handle suffix =>
          return ({ anchor := some name, tag := some (handle, suffix), start := some first.start
                    tagMark := some second.start }, reader.skip.skip)
      | _ =>
          return ({ anchor := some name, tag := none, start := some first.start
                    tagMark := none }, reader.skip)
  | .tag handle suffix =>
      let second ← reader.skip.peek
      let tagged : Preamble :=
        { anchor := none, tag := some (handle, suffix), start := some first.start
          tagMark := some first.start }
      match second.lexeme with
      | .anchor name => return ({ tagged with anchor := some name }, reader.skip.skip)
      | _ => return (tagged, reader.skip)
  | _ => return ({ anchor := none, tag := none, start := none, tagMark := none }, reader)

def expandTag (reader : EventReader) (preamble : Preamble) (start : Mark) :
    EventStep (Option Tag) :=
  match preamble.tag with
  | none => .ok none
  | some (handle, suffix) =>
      if handle.isEmpty then .ok (some { octets := suffix })
      else
        match reader.handles.lookup handle with
        | some expansion => .ok (some { octets := expansion ++ suffix })
        | none =>
            fail (.during .node start .undefinedTagHandle (preamble.tagMark.getD start))

def stepNode (block dashes : Bool) (reader : EventReader) : EventStep Stepped := do
  let first ← reader.peek
  match first.lexeme with
  | .alias name => emit (.alias name) first.start (reader.skip.expect [])
  | _ =>
      let (preamble, after) ← reader.readPreamble
      let token ← after.peek
      let start := preamble.start.getD token.start
      let tag ← after.expandTag preamble start
      let properties : Properties := { anchor := preamble.anchor, tag := tag }
      let nothing : EventStep Stepped :=
        if preamble.start.isSome then
          emit (.scalar properties [] .plain) start (after.expect [])
        else
          fail (.during (if block then .blockNode else .flowNode) start .noNodeContent token.start)
      match token.lexeme with
      | .blockEntry =>
          if dashes then emit (.sequenceStart properties) start (after.expect [.dashEntry])
          else nothing
      | .scalar text style =>
          emit (.scalar properties text style) start (after.skip.expect [])
      | .flowSequenceStart =>
          emit (.sequenceStart properties) start (after.skip.expect [.flowEntry true token.start])
      | .flowMappingStart =>
          emit (.mappingStart properties) start (after.skip.expect [.flowKey true token.start])
      | .blockSequenceStart =>
          if block then
            emit (.sequenceStart properties) start (after.skip.expect [.blockEntry token.start])
          else nothing
      | .blockMappingStart =>
          if block then
            emit (.mappingStart properties) start (after.skip.expect [.blockKey token.start])
          else nothing
      | _ => nothing

def stepBlockEntry (since : Mark) (reader : EventReader) : EventStep Stepped := do
  let token ← reader.peek
  match token.lexeme with
  | .blockEntry =>
      let next ← reader.skip.peek
      match next.lexeme with
      | .blockEntry | .blockEnd =>
          emitEmpty token.stop (reader.skip.expect [.blockEntry since])
      | _ => silently (reader.skip.expect [.node true false, .blockEntry since])
  | .blockEnd => emit .sequenceEnd token.start (reader.skip.expect [])
  | _ => fail (.during .blockCollection since .noDash token.start)

def stepDashEntry (reader : EventReader) : EventStep Stepped := do
  let token ← reader.peek
  match token.lexeme with
  | .blockEntry =>
      let next ← reader.skip.peek
      match next.lexeme with
      | .blockEntry | .key | .value | .blockEnd =>
          emitEmpty token.stop (reader.skip.expect [.dashEntry])
      | _ => silently (reader.skip.expect [.node true false, .dashEntry])
  | _ => emit .sequenceEnd token.start (reader.expect [])

def stepBlockKey (since : Mark) (reader : EventReader) : EventStep Stepped := do
  let token ← reader.peek
  match token.lexeme with
  | .key =>
      let next ← reader.skip.peek
      match next.lexeme with
      | .key | .value | .blockEnd =>
          emitEmpty token.stop (reader.skip.expect [.blockValue, .blockKey since])
      | _ => silently (reader.skip.expect [.node true true, .blockValue, .blockKey since])
  | .blockEnd => emit .mappingEnd token.start (reader.skip.expect [])
  | _ => fail (.during .blockMapping since .noKey token.start)

def stepBlockValue (reader : EventReader) : EventStep Stepped := do
  let token ← reader.peek
  match token.lexeme with
  | .value =>
      let next ← reader.skip.peek
      match next.lexeme with
      | .key | .value | .blockEnd => emitEmpty token.stop (reader.skip.expect [])
      | _ => silently (reader.skip.expect [.node true true])
  | _ => emitEmpty token.start (reader.expect [])

def passComma (first : Bool) (activity : Activity) (since : Mark) (problem : Problem)
    (reader : EventReader) : EventStep EventReader := do
  let token ← reader.peek
  if first then return reader
  else if token.lexeme = .flowEntry then
    let _ ← reader.skip.peek
    return reader.skip
  else fail (.during activity since problem token.start)

def stepFlowEntry (first : Bool) (since : Mark) (reader : EventReader) : EventStep Stepped := do
  let token ← reader.peek
  if token.lexeme = .flowSequenceEnd then emit .sequenceEnd token.start (reader.skip.expect [])
  else
    let passed ← reader.passComma first .flowSequence since .noCommaOrBracket
    let entry ← passed.peek
    match entry.lexeme with
    | .key =>
        emit (.mappingStart { anchor := none, tag := none }) entry.start
          (passed.skip.expect [.pairKey, .pairValue, .pairEnd, .flowEntry false since])
    | .flowSequenceEnd => emit .sequenceEnd entry.start (passed.skip.expect [])
    | _ => silently (passed.expect [.node false false, .flowEntry false since])

/-- The key of a pair in brackets; where it is missing, the token in its place is passed over. -/
def stepPairKey (reader : EventReader) : EventStep Stepped := do
  let token ← reader.peek
  match token.lexeme with
  | .value | .flowEntry | .flowSequenceEnd => emitEmpty token.stop (reader.skip.expect [])
  | _ => silently (reader.expect [.node false false])

def stepPairValue (reader : EventReader) : EventStep Stepped := do
  let token ← reader.peek
  match token.lexeme with
  | .value =>
      let next ← reader.skip.peek
      match next.lexeme with
      | .flowEntry | .flowSequenceEnd => emitEmpty next.start (reader.skip.expect [])
      | _ => silently (reader.skip.expect [.node false false])
  | _ => emitEmpty token.start (reader.expect [])

def stepPairEnd (reader : EventReader) : EventStep Stepped := do
  let token ← reader.peek
  emit .mappingEnd token.start (reader.expect [])

def stepFlowKey (first : Bool) (since : Mark) (reader : EventReader) : EventStep Stepped := do
  let token ← reader.peek
  if token.lexeme = .flowMappingEnd then emit .mappingEnd token.start (reader.skip.expect [])
  else
    let passed ← reader.passComma first .flowMapping since .noCommaOrBrace
    let entry ← passed.peek
    match entry.lexeme with
    | .key =>
        let next ← passed.skip.peek
        match next.lexeme with
        | .value | .flowEntry | .flowMappingEnd =>
            emitEmpty next.start (passed.skip.expect [.flowValue, .flowKey false since])
        | _ => silently (passed.skip.expect [.node false false, .flowValue, .flowKey false since])
    | .flowMappingEnd => emit .mappingEnd entry.start (passed.skip.expect [])
    | _ => silently (passed.expect [.node false false, .flowNoValue, .flowKey false since])

def stepFlowValue (reader : EventReader) : EventStep Stepped := do
  let token ← reader.peek
  match token.lexeme with
  | .value =>
      let next ← reader.skip.peek
      match next.lexeme with
      | .flowEntry | .flowMappingEnd => emitEmpty next.start (reader.skip.expect [])
      | _ => silently (reader.skip.expect [.node false false])
  | _ => emitEmpty token.start (reader.expect [])

def stepFlowNoValue (reader : EventReader) : EventStep Stepped := do
  let token ← reader.peek
  emitEmpty token.start (reader.expect [])

def step (reader : EventReader) : Expectation → EventStep Stepped
  | .document first => reader.stepDocument first
  | .documentContent => reader.stepContent
  | .documentEnd => reader.stepDocumentEnd
  | .node block dashes => reader.stepNode block dashes
  | .blockEntry since => reader.stepBlockEntry since
  | .dashEntry => reader.stepDashEntry
  | .blockKey since => reader.stepBlockKey since
  | .blockValue => reader.stepBlockValue
  | .flowEntry first since => reader.stepFlowEntry first since
  | .pairKey => reader.stepPairKey
  | .pairValue => reader.stepPairValue
  | .pairEnd => reader.stepPairEnd
  | .flowKey first since => reader.stepFlowKey first since
  | .flowValue => reader.stepFlowValue
  | .flowNoValue => reader.stepFlowNoValue

end EventReader

/-- Events in order, and the fault that comes after the last of them, if there is one. -/
structure EventStream where
  events : List (Event × Mark)
  fault : Option GrammarFault

namespace EventStream

def collect : Nat → EventReader → List (Event × Mark) → EventStream
  | 0, reader, found => { events := found.reverse, fault := reader.fault }
  | fuel + 1, reader, found =>
      match reader.pending with
      | [] => { events := found.reverse, fault := none }
      | expectation :: _ =>
          match reader.step expectation with
          | .error fault => { events := found.reverse, fault := fault }
          | .ok (events, next) => collect fuel next (events.reverse ++ found)

/-- Between two tokens that are taken there are fewer than six steps. -/
def ofTokens (stream : TokenStream) : EventStream :=
  collect (6 * stream.tokens.length + 12) (.ofTokens stream) []

def ofText (text : String) : EventStream :=
  ofTokens (.ofText text)

end Sluice.Yaml.EventStream
