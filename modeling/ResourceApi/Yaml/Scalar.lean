/-
This file reads the scalars of YAML documents: plain ones, quoted ones, and blocks of lines.
-/

import ResourceApi.Text.Decimal
import ResourceApi.Text.Hex
import ResourceApi.Yaml.Source

namespace ResourceApi.Yaml

/-- A tab must not stand before the given column. -/
def readBreaks (limit : Nat) : Source → Option (List Char × Source)
  | [] => some ([], [])
  | glyph :: rest =>
      if isBreak glyph.character then
        (readBreaks limit rest).map fun (breaks, left) => (glyph.character :: breaks, left)
      else if isGap glyph.character then
        if glyph.character = '\t' ∧ glyph.column < limit then none else readBreaks limit rest
      else some ([], glyph :: rest)

/-- A gap between words holds the breaks of its lines, or else blanks. -/
structure Gap where
  blanks : List Char
  breaks : List Char

def readGap (limit : Nat) (source : Source) : Option (Gap × Source) :=
  let (blanks, rest) := source.readWhile isGap
  match rest with
  | glyph :: rest =>
      if isBreak glyph.character then
        (readBreaks limit rest).map fun (breaks, left) => (⟨[], glyph.character :: breaks⟩, left)
      else some (⟨blanks, []⟩, glyph :: rest)
  | [] => some (⟨blanks, []⟩, [])

/-- One line break becomes a space. Of several, all but the first stay. -/
def Gap.folded (gap : Gap) : List Char :=
  match gap.breaks with
  | [] => gap.blanks
  | ['\n'] => [' ']
  | '\n' :: others => others
  | breaks => breaks

def flowIndicators : List Char := [',', '[', ']', '\x7b', '\x7d']

/-- A plain word ends before white space and before what structures collections. -/
def readWord (inFlow : Bool) : Source → Option (List Char × Source)
  | [] => some ([], [])
  | glyph :: rest =>
      let next := Source.current rest
      if isBlankOrEnd glyph.character then some ([], glyph :: rest)
      else if inFlow ∧ glyph.character = ':' ∧ ('?' :: flowIndicators).contains next then none
      else if glyph.character = ':' ∧ isBlankOrEnd next then some ([], glyph :: rest)
      else if inFlow ∧ flowIndicators.contains glyph.character then some ([], glyph :: rest)
      else (readWord inFlow rest).map fun (word, left) => (glyph.character :: word, left)

/-- What a scalar says, and whether the gap after it breaks the line. -/
structure Plain where
  content : List Char
  broken : Bool

/-- A plain scalar goes on over lines that are indented enough. -/
def readPlain (fuel : Nat) (inFlow : Bool) (limit : Nat) (broken : Bool) (source : Source) :
    Option (Plain × Source) :=
  match fuel with
  | 0 => none
  | fuel + 1 => do
      let (word, rest) ← readWord inFlow source
      if isGap rest.current ∨ isBreak rest.current then
        let (gap, rest) ← readGap limit rest
        let broken := gap.breaks ≠ []
        if (!inFlow && rest.column < limit) || rest.isDocumentIndicator || rest.current = '#' then
          return (⟨word, broken⟩, rest)
        let (more, left) ← readPlain fuel inFlow limit broken rest
        let content := if more.content = [] then word else word ++ gap.folded ++ more.content
        return (⟨content, more.broken⟩, left)
      else return (⟨word, broken && word = []⟩, rest)

/-- A quote inside single quotes is written twice. -/
def readSingleQuoted (fuel : Nat) (source : Source) : Option (List Char × Source) :=
  match fuel with
  | 0 => none
  | fuel + 1 =>
      match source with
      | [] => none
      | glyph :: rest =>
          if isEnd glyph.character then none
          else if glyph.character = '\'' then
            if Source.current rest = '\'' then
              (readSingleQuoted fuel (rest.drop 1)).map fun (read, left) => ('\'' :: read, left)
            else some ([], rest)
          else if isGap glyph.character ∨ isBreak glyph.character then do
            let (gap, rest) ← readGap 0 source
            if rest.isDocumentIndicator then none
            else
              let (read, left) ← readSingleQuoted fuel rest
              return (gap.folded ++ read, left)
          else (readSingleQuoted fuel rest).map fun (read, left) => (glyph.character :: read, left)

/-- The character that an escape of one character stands for. -/
def escapedCharacter : Char → Option Char
  | '0' => some (Char.ofNat 0)
  | 'a' => some (Char.ofNat 0x07)
  | 'b' => some (Char.ofNat 0x08)
  | 't' => some '\t'
  | '\t' => some '\t'
  | 'n' => some '\n'
  | 'v' => some (Char.ofNat 0x0B)
  | 'f' => some (Char.ofNat 0x0C)
  | 'r' => some '\r'
  | 'e' => some (Char.ofNat 0x1B)
  | ' ' => some ' '
  | '"' => some '"'
  | '/' => some '/'
  | '\\' => some '\\'
  | 'N' => some '\u0085'
  | '_' => some '\u00A0'
  | 'L' => some '\u2028'
  | 'P' => some '\u2029'
  | _ => none

/-- The number of hexadecimal digits that an escape takes. -/
def escapeLength : Char → Option Nat
  | 'x' => some 2
  | 'u' => some 4
  | 'U' => some 8
  | _ => none

/-- An escape after its backslash. -/
def readEscape (source : Source) : Option (Char × Source) := do
  let rest := source.drop 1
  match escapeLength source.current with
  | none => return (← escapedCharacter source.current, rest)
  | some length =>
      let digits := (rest.take length).map Glyph.character
      let number ← if digits.length = length then Text.hexNumber digits else none
      if number.isValidChar then return (Char.ofNat number, rest.drop length) else none

/-- Inside double quotes there are escapes. A break after a backslash joins two lines. -/
def readDoubleQuoted (fuel : Nat) (source : Source) : Option (List Char × Source) :=
  match fuel with
  | 0 => none
  | fuel + 1 =>
      match source with
      | [] => none
      | glyph :: rest =>
          if isEnd glyph.character then none
          else if glyph.character = '"' then some ([], rest)
          else if glyph.character = '\\' then
            if isBreak (Source.current rest) then do
              let (breaks, rest) ← readBreaks 0 (rest.drop 1)
              if rest.isDocumentIndicator then none
              else
                let (read, left) ← readDoubleQuoted fuel rest
                return (breaks ++ read, left)
            else do
              let (character, rest) ← readEscape rest
              let (read, left) ← readDoubleQuoted fuel rest
              return (character :: read, left)
          else if isGap glyph.character ∨ isBreak glyph.character then do
            let (gap, rest) ← readGap 0 source
            if rest.isDocumentIndicator then none
            else
              let (read, left) ← readDoubleQuoted fuel rest
              return (gap.folded ++ read, left)
          else (readDoubleQuoted fuel rest).map fun (read, left) => (glyph.character :: read, left)

/-! Blocks -/

/-- What becomes of the line breaks at the end of a block. -/
inductive Chomping where
  | strip
  | clip
  | keep
  deriving DecidableEq

/-- The head says how a block ends and how far it is indented. -/
structure BlockHead where
  chomping : Chomping := .clip
  increment : Option Nat := none

def readChomping (source : Source) : Option (Chomping × Source) :=
  if source.current = '+' then some (.keep, source.drop 1)
  else if source.current = '-' then some (.strip, source.drop 1)
  else none

/-- Zero is no indentation. -/
def readIncrement (source : Source) : Option (Option Nat × Source) :=
  if source.current = '0' then none
  else if Text.isDigit source.current then
    some (some (Text.digitValue source.current), source.drop 1)
  else some (none, source)

def readBlockHead (source : Source) : Option (BlockHead × Source) :=
  match readChomping source with
  | some (chomping, rest) => do
      let (increment, rest) ← readIncrement rest
      return ({ chomping, increment }, rest)
  | none => do
      let (increment, rest) ← readIncrement source
      match increment, readChomping rest with
      | some _, some (chomping, rest) => return ({ chomping, increment }, rest)
      | _, _ => return ({ increment }, rest)

/-- Blanks and a comment at the end of a line, with the break after them. -/
def readLineEnd (source : Source) : Option Source :=
  let rest := (source.readWhile isGap).2
  let rest := if rest.current = '#' then (rest.readUntil isBreakOrEnd).2 else rest
  if isBreak rest.current then some (rest.drop 1)
  else if isEnd rest.current then some rest
  else none

/-- Up to the indentation of the block there must be spaces only. -/
def readEmptyLines (indent : Option Nat) : Source → Option (List Char × Nat × Source)
  | [] => some ([], 0, [])
  | glyph :: rest =>
      let inside := indent.all fun indent => glyph.column < indent
      if inside ∧ glyph.character = ' ' then readEmptyLines indent rest
      else if inside ∧ glyph.character = '\t' then none
      else if isBreak glyph.character then
        (readEmptyLines indent rest).map fun (breaks, deepest, left) =>
          (glyph.character :: breaks, max glyph.column deepest, left)
      else some ([], glyph.column, glyph :: rest)

/-- The lines of a block up to one that is indented less. -/
structure BlockLines where
  content : List Char
  /-- This is the break after the last line. -/
  lastBreak : List Char
  /-- These are the breaks of the empty lines after that. -/
  emptyLines : List Char

/-- In a folded block a break becomes a space, except next to blanks. -/
def joint (folded leadingBlank trailingBlank : Bool) (lastBreak emptyLines : List Char) :
    List Char :=
  if folded && lastBreak = ['\n'] && !leadingBlank && !trailingBlank then
    if emptyLines = [] then [' '] else emptyLines
  else lastBreak ++ emptyLines

def readBlockLines (fuel : Nat) (folded : Bool) (indent : Nat) (leadingBlank : Bool)
    (lastBreak emptyLines : List Char) (source : Source) : Option (BlockLines × Source) :=
  match fuel with
  | 0 => none
  | fuel + 1 =>
      if source.column = indent ∧ !isEnd source.current then do
        let blank := isGap source.current
        let start := joint folded leadingBlank blank lastBreak emptyLines
        let (line, rest) := source.readUntil isBreakOrEnd
        let lastBreak := if isBreak rest.current then [rest.current] else []
        let (emptyLines, _, rest) ← readEmptyLines (some indent) (rest.drop lastBreak.length)
        let (more, left) ← readBlockLines fuel folded indent blank lastBreak emptyLines rest
        return ({ more with content := start ++ line ++ more.content }, left)
      else some (⟨[], lastBreak, emptyLines⟩, source)

def BlockLines.chomped (lines : BlockLines) : Chomping → List Char
  | .strip => lines.content
  | .clip => lines.content ++ lines.lastBreak
  | .keep => lines.content ++ lines.lastBreak ++ lines.emptyLines

/-- The first line that is not empty shows the indentation. -/
def readBlock (folded : Bool) (outer : Int) (source : Source) : Option (List Char × Source) := do
  let (head, rest) ← readBlockHead source
  let rest ← readLineEnd rest
  let given := head.increment.map fun increment => outer.toNat + increment
  let (emptyLines, deepest, rest) ← readEmptyLines given rest
  let indent := given.getD (max deepest (max (outer + 1).toNat 1))
  let (lines, rest) ← readBlockLines (rest.length + 1) folded indent false [] emptyLines rest
  return (lines.chomped head.chomping, rest)

end ResourceApi.Yaml
