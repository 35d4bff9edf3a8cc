/-
This file writes texts as YAML scalars. A text is written plainly where it will be read as the same
text. Texts of several lines become literal blocks.
-/

import ResourceApi.Text.Hex
import ResourceApi.Yaml.Plain
import ResourceApi.Yaml.Source

namespace ResourceApi.Yaml

/-- Other characters are written as escapes. -/
def isPrintable (character : Char) : Bool :=
  let code := character.toNat
  code == 0x0A || (0x20 ≤ code && code ≤ 0x7E) || (0xA0 ≤ code && code ≤ 0xD7FF) ||
    (0xE000 ≤ code && code ≤ 0xFFFD && code != 0xFEFF) || 0x10000 ≤ code

/-- White space, the end of a line and the end of the text. -/
def isBlankAt (character : Option Char) : Bool :=
  match character with
  | none => true
  | some character => isBlankOrEnd character || character = '\r' || character = '\u0085'

def beginsWith (holds : Char → Bool) (characters : List Char) : Bool :=
  characters.head?.any holds

def endsWith (holds : Char → Bool) (characters : List Char) : Bool :=
  characters.getLast?.any holds

def isSpace (character : Char) : Bool := character = ' '

/-- Whether two neighbours stand somewhere in the text. -/
def hasPair (first second : Char → Bool) : List Char → Bool
  | one :: two :: rest => (first one && second two) || hasPair first second (two :: rest)
  | _ => false

/-- These characters mean something else at the start of a plain scalar. -/
def startIndicators : List Char :=
  ['#', ',', '[', ']', '\x7b', '\x7d', '&', '*', '!', '|', '>', '\'', '"', '%', '@', '`']

/-- These characters mean something else there before white space. -/
def spacedIndicators : List Char := ['?', ':', '-']

def indicatesStart (characters : List Char) : Bool :=
  ['-', '-', '-'].isPrefixOf characters || ['.', '.', '.'].isPrefixOf characters ||
    match characters with
    | [] => false
    | first :: rest =>
        startIndicators.contains first ||
          (spacedIndicators.contains first && isBlankAt rest.head?)

/-- A colon before white space ends a key, and after white space a comment may begin. -/
def indicatesLater (blankBefore : Bool) : List Char → Bool
  | [] => false
  | character :: rest =>
      (character = ':' && isBlankAt rest.head?) || (character = '#' && blankBefore) ||
        indicatesLater (isBlankAt (some character)) rest

def hasIndicator (characters : List Char) : Bool :=
  indicatesStart characters ||
    match characters with
    | [] => false
    | first :: rest => indicatesLater (isBlankAt (some first)) rest

/-- Only double quotes keep what cannot be printed. -/
def needsEscapes (characters : List Char) : Bool :=
  hasPair isSpace isBreak characters || !characters.all isPrintable

def allowsSingleQuotes (characters : List Char) : Bool :=
  !needsEscapes characters && !hasPair isBreak isSpace characters

def allowsPlain (characters : List Char) : Bool :=
  !needsEscapes characters && !characters.any isBreak && !beginsWith isSpace characters &&
    !endsWith isSpace characters && !hasIndicator characters

def allowsBlock (characters : List Char) : Bool :=
  !needsEscapes characters && !endsWith isSpace characters

/-! Styles -/

def indentation (indent : Nat) : List Char := List.replicate indent ' '

/-- A quote is written twice. A line after a break is indented. -/
def singleQuotedRest (indent : Nat) (broken : Bool) : List Char → List Char
  | [] => if broken then indentation indent else []
  | character :: rest =>
      if isBreak character then character :: singleQuotedRest indent true rest
      else
        (if broken then indentation indent else []) ++
          (if character = '\'' then ['\'', '\''] else [character]) ++
          singleQuotedRest indent false rest

def writeSingleQuoted (indent : Nat) (characters : List Char) : List Char :=
  '\'' :: singleQuotedRest indent false characters ++ ['\'']

/-- The letter of an escape that has one. -/
def escapeLetter (character : Char) : Option Char :=
  match character.toNat with
  | 0x00 => some '0'
  | 0x07 => some 'a'
  | 0x08 => some 'b'
  | 0x09 => some 't'
  | 0x0A => some 'n'
  | 0x0B => some 'v'
  | 0x0C => some 'f'
  | 0x0D => some 'r'
  | 0x1B => some 'e'
  | 0x22 => some '"'
  | 0x5C => some '\\'
  | 0x85 => some 'N'
  | 0xA0 => some '_'
  | 0x2028 => some 'L'
  | 0x2029 => some 'P'
  | _ => none

/-- The digits of a number in base sixteen, with zeros in front. -/
def hexDigits : Nat → Nat → List Char
  | 0, _ => []
  | count + 1, value => hexDigits count (value / 16) ++ [Text.upperHexDigit (value % 16)]

def numberedEscape (character : Char) : List Char :=
  let code := character.toNat
  if code ≤ 0xFF then 'x' :: hexDigits 2 code
  else if code ≤ 0xFFFF then 'u' :: hexDigits 4 code
  else 'U' :: hexDigits 8 code

def writeEscaped (character : Char) : List Char :=
  if isPrintable character ∧ !isBreak character ∧ character ≠ '"' ∧ character ≠ '\\' then
    [character]
  else
    match escapeLetter character with
    | some letter => ['\\', letter]
    | none => '\\' :: numberedEscape character

def writeDoubleQuoted (characters : List Char) : List Char :=
  '"' :: characters.flatMap writeEscaped ++ ['"']

/-- Every line is indented, but empty lines stay empty. -/
def literalLines (indent : Nat) (broken : Bool) : List Char → List Char
  | [] => []
  | character :: rest =>
      if isBreak character then character :: literalLines indent true rest
      else
        (if broken then indentation indent else []) ++ character :: literalLines indent false rest

/-- A block that begins with white space shows its indentation, which is two more than around. -/
def indentHint (characters : List Char) : List Char :=
  if beginsWith (fun character => isSpace character || isBreak character) characters then ['2']
  else []

/-- The hint says how many breaks follow the last line of the block. -/
def chompingHint (characters : List Char) : List Char :=
  match characters.reverse with
  | [] => ['-']
  | last :: before =>
      if !isBreak last then ['-']
      else if before.isEmpty || beginsWith isBreak before then ['+']
      else []

/-- The literal block ends with a break, be it its own or one behind it. -/
def writeLiteral (indent : Nat) (characters : List Char) : List Char :=
  let lines := literalLines indent true characters
  ['|'] ++ indentHint characters ++ chompingHint characters ++ ['\n'] ++ lines

def writeText (indent : Nat) (content : String) : List Char :=
  let characters := content.toList
  if characters.contains '\n' then
    if allowsBlock characters then writeLiteral indent characters
    else writeDoubleQuoted characters
  else if !isAmbiguous content && allowsPlain characters then characters
  else if allowsSingleQuotes characters then writeSingleQuoted indent characters
  else writeDoubleQuoted characters

/-- What is written ends its line. -/
def endLine (written : List Char) : List Char :=
  if endsWith isBreak written then written else written ++ ['\n']

/-! Lines -/

/-- A line with a key and a text behind it. -/
def textLine (indent : Nat) (key content : String) : List Char :=
  endLine (indentation indent ++ key.toList ++ [':', ' '] ++ writeText (indent + 2) content)

/-- A key with nothing behind it on its line. -/
def keyLine (indent : Nat) (key : String) : List Char :=
  indentation indent ++ key.toList ++ [':', '\n']

/-- The items of a list stand as far to the right as the key. -/
def listLines (indent : Nat) (key : String) (items : List String) : List Char :=
  if items.isEmpty then indentation indent ++ key.toList ++ [':', ' ', '[', ']', '\n']
  else
    keyLine indent key ++ items.flatMap fun item =>
      endLine (indentation indent ++ ['-', ' '] ++ writeText (indent + 2) item)

/-- A key on one line with its value has so many bytes at most. -/
def simpleKeyLimit : Nat := 128

def writeTruth (value : Bool) : List Char := (if value then "true" else "false").toList

/-- Keys that are too long or have several lines stand behind a question mark. -/
def truthLine (indent : Nat) (key : String) (value : Bool) : List Char :=
  if key.toList.any isBreak ∨ simpleKeyLimit < key.utf8ByteSize then
    endLine (indentation indent ++ ['?', ' '] ++ writeText (indent + 2) key) ++
      indentation indent ++ [':', ' '] ++ writeTruth value ++ ['\n']
  else
    indentation indent ++ writeText (indent + 2) key ++ [':', ' '] ++ writeTruth value ++ ['\n']

end ResourceApi.Yaml
