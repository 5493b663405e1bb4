set_option autoImplicit false

/-! Addresses of the form `http://authority/path?query`. The authority holds an optional user before the
last `@`, a host, and an optional port; a fragment is dropped unread. -/

namespace Sluice

structure Uri where
  authority : List Char
  path : List Char
  query : Option (List Char)
deriving DecidableEq

namespace Uri

/-- The longest address that is read at all, in bytes. -/
def greatestLength : Nat :=
  65534

def startsPath (character : Char) : Bool :=
  character = '/' || character = '?' || character = '#'

def isAuthorityCharacter (character : Char) : Bool :=
  character.isAlphanum || "!$&'()*+,-.:;=@[]_~".toList.contains character

/-- Characters that may stand in a path. Quotes and braces are let through as well. -/
def isPathCharacter (character : Char) : Bool :=
  let code := character.toNat
  code == 0x21 || (0x24 ≤ code && code ≤ 0x3b) || code == 0x3d || (0x40 ≤ code && code ≤ 0x5f) ||
    (0x61 ≤ code && code ≤ 0x7a) || code == 0x7c || code == 0x7e || code == 0x22 || code == 0x7b ||
    code == 0x7d

def isQueryCharacter (character : Char) : Bool :=
  let code := character.toNat
  code == 0x21 || (0x24 ≤ code && code ≤ 0x3b) || code == 0x3d || (0x3f ≤ code && code ≤ 0x7e)

/-- What has been seen of an authority so far. An `@` or a closing bracket makes the colons and
percent signs before it count for nothing. -/
structure AuthorityScan where
  colons : Nat
  opened : Bool
  closed : Bool
  percent : Bool
  endsAtUser : Bool

namespace AuthorityScan

def start : AuthorityScan :=
  { colons := 0, opened := false, closed := false, percent := false, endsAtUser := false }

def next (scan : AuthorityScan) (character : Char) : Option AuthorityScan :=
  let here := { scan with endsAtUser := false }
  if character = ':' then
    if 8 ≤ scan.colons then none else some { here with colons := scan.colons + 1 }
  else if character = '[' then
    if scan.percent || scan.opened then none else some { here with opened := true }
  else if character = ']' then
    if !scan.opened || scan.closed then none
    else some { here with closed := true, colons := 0, percent := false }
  else if character = '@' then
    some { here with colons := 0, percent := false, endsAtUser := true }
  else if character = '%' then some { here with percent := true }
  else if isAuthorityCharacter character then some here
  else none

def run (scan : AuthorityScan) : List Char → Option AuthorityScan
  | [] => some scan
  | character :: rest =>
      match scan.next character with
      | none => none
      | some later => later.run rest

def isSound (scan : AuthorityScan) : Bool :=
  scan.opened == scan.closed && scan.colons ≤ 1 && !scan.percent && !scan.endsAtUser

end AuthorityScan

def isAuthority (characters : List Char) : Bool :=
  match AuthorityScan.start.run characters with
  | some scan => !characters.isEmpty && scan.isSound
  | none => false

/-- Reads a path and, after the first question mark, a query, up to the first `#`. -/
def pathAndQuery? (characters : List Char) : Option (List Char × Option (List Char)) :=
  let kept := characters.takeWhile (· != '#')
  let path := kept.takeWhile (· != '?')
  let query := match kept.dropWhile (· != '?') with
    | [] => none
    | _ :: rest => some rest
  if path.all isPathCharacter && (query.getD []).all isQueryCharacter then some (path, query)
  else none

def ofRest? (characters : List Char) : Option Uri :=
  let authority := characters.takeWhile fun character => !startsPath character
  if isAuthority authority then
    (pathAndQuery? (characters.dropWhile fun character => !startsPath character)).map fun parts =>
      { authority := authority, path := parts.1, query := parts.2 }
  else none

def schemeMark : List Char :=
  "http://".toList

def parse? (text : String) : Option Uri :=
  if greatestLength < text.utf8ByteSize then none
  else if schemeMark.isPrefixOf text.toList then ofRest? (text.toList.drop schemeMark.length)
  else none

def userInfo? (uri : Uri) : Option (List Char) :=
  if uri.authority.contains '@' then
    some ((uri.authority.reverse.dropWhile (· != '@')).drop 1).reverse
  else none

def hostAndPort (uri : Uri) : List Char :=
  (uri.authority.reverse.takeWhile (· != '@')).reverse

def host (uri : Uri) : List Char :=
  let rest := uri.hostAndPort
  if rest.head? = some '[' then rest.takeWhile (· != ']') ++ [']']
  else rest.takeWhile (· != ':')

/-- A number of 16 bits in decimal digits; a plus sign may stand before them. -/
def portNumber? (characters : List Char) : Option Nat :=
  let digits := match characters with
    | '+' :: rest => rest
    | other => other
  let number := digits.foldl (fun held digit => held * 10 + (digit.toNat - 48)) 0
  if !digits.isEmpty && digits.all Char.isDigit && number < 65536 then some number else none

def port? (uri : Uri) : Option Nat :=
  if uri.authority.contains ':' then
    portNumber? (uri.authority.reverse.takeWhile (· != ':')).reverse
  else none

/-- An empty path stands for the root. -/
def shownPath (uri : Uri) : List Char :=
  if uri.path.isEmpty then ['/'] else uri.path

end Sluice.Uri
