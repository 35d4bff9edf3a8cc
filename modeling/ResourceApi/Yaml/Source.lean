/-
This file turns the text of a YAML document into glyphs: characters that know where they stand.
The last glyph of every source marks its end.
-/

namespace ResourceApi.Yaml

/-- The end of a source is marked by a character that no text may hold. -/
def endMark : Char := Char.ofNat 0

def isEnd (character : Char) : Bool := character = endMark

/-- Lines end at these characters. Only the first of them is white space inside a text. -/
def isBreak (character : Char) : Bool :=
  character = '\n' || character = '\u2028' || character = '\u2029'

def isGap (character : Char) : Bool := character = ' ' || character = '\t'

def isBreakOrEnd (character : Char) : Bool := isBreak character || isEnd character

def isBlankOrEnd (character : Char) : Bool := isGap character || isBreakOrEnd character

/-- The byte order mark may stand at the start of a line. -/
def orderMark : Char := '\uFEFF'

/-- Control characters have no place in a document, except the tab and the ends of lines. -/
def isAllowed (character : Char) : Bool :=
  let code := character.toNat
  code == 0x09 || code == 0x0A || code == 0x0D || (0x20 ≤ code && code ≤ 0x7E) || code == 0x85 ||
    (0xA0 ≤ code && code ≤ 0xD7FF) || (0xE000 ≤ code && code ≤ 0xFFFD) || 0x10000 ≤ code

structure Glyph where
  character : Char
  line : Nat := 0
  column : Nat := 0
  /-- This is the number of characters before this one. -/
  offset : Nat := 0
  deriving Inhabited

abbrev Source := List Glyph

/-- All ways to end a line are replaced by one. -/
def unifyBreaks : List Char → List Char
  | [] => []
  | '\r' :: '\n' :: rest => '\n' :: unifyBreaks rest
  | character :: rest =>
      (if character = '\r' ∨ character = '\u0085' then '\n' else character) :: unifyBreaks rest

namespace Source

def mark (line column offset : Nat) : List Char → Source
  | [] => [⟨endMark, line, column, offset⟩]
  | character :: rest =>
      ⟨character, line, column, offset⟩ ::
        (if isBreak character then mark (line + 1) 0 (offset + 1) rest
          else mark line (column + 1) (offset + 1) rest)

def ofText? (text : String) : Option Source :=
  let characters :=
    match text.toList with
    | [] => []
    | first :: rest => if first = orderMark then rest else first :: rest
  if characters.all isAllowed then some (mark 0 0 0 (unifyBreaks characters)) else none

/-- The character at a distance from the start. -/
def look (source : Source) (distance : Nat) : Char :=
  match source[distance]? with
  | some glyph => glyph.character
  | none => endMark

def current (source : Source) : Char := source.look 0

def column (source : Source) : Nat :=
  match source with
  | [] => 0
  | glyph :: _ => glyph.column

/-- The characters before the first one that is stopped at, and everything from there. -/
def readUntil (stop : Char → Bool) (source : Source) : List Char × Source :=
  ((source.takeWhile fun glyph => !stop glyph.character).map Glyph.character,
    source.dropWhile fun glyph => !stop glyph.character)

def readWhile (go : Char → Bool) (source : Source) : List Char × Source :=
  source.readUntil fun character => !go character

/-- Three equal characters at the start of a line mark a document. -/
def isIndicator (character : Char) (source : Source) : Bool :=
  source.column == 0 && source.look 0 == character && source.look 1 == character &&
    source.look 2 == character && isBlankOrEnd (source.look 3)

def isDocumentIndicator (source : Source) : Bool :=
  source.isIndicator '-' || source.isIndicator '.'

end Source

end ResourceApi.Yaml
