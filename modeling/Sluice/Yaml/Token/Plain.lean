import Sluice.Yaml.Token.Gap

set_option autoImplicit false

/-! Scalars without quotes. They end at a comment, at a colon before a gap, at a line that is not
indented far enough and, between brackets, at a bracket or comma. -/

namespace Sluice.Yaml.Plain

/-- The start of a line's worth of text, up to what ends it. Between brackets a colon must not touch
a bracket, comma or question mark; `none` if it does. -/
def word (inFlow : Bool) : List Char → List Char × Bool
  | [] => ([], true)
  | character :: rest =>
      let touching := rest.head?.any fun next => next = '?' || isFlowMark next
      if isGap character then ([], true)
      else if inFlow && character = ':' && touching then ([], false)
      else if character = ':' && rest.head?.all isGap then ([], true)
      else if inFlow && isFlowMark character then ([], true)
      else
        let later := word inFlow rest
        (character :: later.1, later.2)

structure Scan where
  text : List Char
  cursor : Cursor
  broken : Bool

def words (inFlow : Bool) (floor : Nat) (since : Mark) :
    Nat → Cursor → Gap → List Char → Except GrammarFault Scan
  | 0, cursor, gap, text => .ok { text := text, cursor := cursor, broken := gap.broken }
  | fuel + 1, cursor, gap, text =>
      if cursor.atDocumentRule || cursor.sees (· = '#') then
        .ok { text := text, cursor := cursor, broken := gap.broken }
      else
        let found := word inFlow cursor.rest
        let after := cursor.advance found.1.length
        if !found.2 then after.fail .plainScalar since .unexpectedColon
        else
          let extended := if found.1.isEmpty then text else text ++ gap.folded ++ found.1
          let left := if found.1.isEmpty then gap else .none
          if !after.sees isGap then
            .ok { text := extended, cursor := after, broken := left.broken }
          else
            match Gap.read floor after.mark left after.rest with
            | .error mark => .error (.during .plainScalar since .tabInPlainScalar mark)
            | .ok (passed, beyond) =>
                if !inFlow && beyond.mark.column < floor then
                  .ok { text := extended, cursor := beyond, broken := passed.broken }
                else words inFlow floor since fuel beyond passed extended

/-- Reads a plain scalar; outside of brackets its further lines start at column `floor` or later. -/
def scan (inFlow : Bool) (floor : Nat) (cursor : Cursor) : Except GrammarFault Scan :=
  words inFlow floor cursor.mark (cursor.rest.length + 1) cursor .none []

end Sluice.Yaml.Plain
