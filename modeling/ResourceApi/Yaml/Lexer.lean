/-
This file reads the tokens of YAML documents. Indentation opens and closes block collections. A
token that turns out to be the key of a mapping gets a key token in front of it when the colon
after it is read.
-/

import ResourceApi.Yaml.Scalar
import ResourceApi.Yaml.Token

namespace ResourceApi.Yaml

/-- A key may have begun before this token and at this glyph. -/
structure PossibleKey where
  place : Nat
  required : Bool
  start : Glyph

structure Lexer where
  tokens : List Token := []
  /-- The column lies left of every other outside of all blocks. -/
  indent : Int := -1
  outerIndents : List Int := []
  key : Option PossibleKey := none
  /-- The possible keys in the brackets around, and outside of all brackets. -/
  outerKeys : List (Option PossibleKey) := []
  allowsKey : Bool := true

namespace Lexer

def inFlow (lexer : Lexer) : Bool := !lexer.outerKeys.isEmpty

def emit (lexer : Lexer) (token : Token) : Lexer :=
  { lexer with tokens := lexer.tokens ++ [token] }

/-- A key ends on the line where it begins, and within so many characters. -/
def keyLimit : Nat := 1024

def refreshKey (here : Glyph) : Option PossibleKey → Option (Option PossibleKey)
  | none => some none
  | some key =>
      if key.start.line < here.line ∨ key.start.offset + keyLimit < here.offset then
        if key.required then none else some none
      else some (some key)

/-- Possible keys that have become too long are forgotten. -/
def refreshKeys (lexer : Lexer) (here : Glyph) : Option Lexer := do
  return { lexer with
    key := ← refreshKey here lexer.key
    outerKeys := ← lexer.outerKeys.mapM (refreshKey here) }

def forgetKey (lexer : Lexer) : Option Lexer :=
  if lexer.key.any PossibleKey.required then none else some { lexer with key := none }

/-- A key may begin here. It must do so at the column of the block around. -/
def noteKey (lexer : Lexer) (here : Glyph) : Option Lexer :=
  if lexer.allowsKey then do
    let required := !lexer.inFlow && lexer.indent == here.column
    return { ← lexer.forgetKey with key := some ⟨lexer.tokens.length, required, here⟩ }
  else some lexer

/-- A block begins at a column to the right of the block around. -/
def openBlock (lexer : Lexer) (column place : Nat) (token : Token) : Lexer :=
  if !lexer.inFlow ∧ lexer.indent < column then
    { lexer with
      tokens := lexer.tokens.insertIdx place token
      indent := column
      outerIndents := lexer.indent :: lexer.outerIndents }
  else lexer

def openBlockHere (lexer : Lexer) (column : Nat) (token : Token) : Lexer :=
  lexer.openBlock column lexer.tokens.length token

/-- The number of indents that lie right of a column, and the first that does not. -/
def indentsBeyond (column : Int) : Int → List Int → Nat × Int × List Int
  | indent, [] => (0, indent, [])
  | indent, outer :: rest =>
      if column < indent then
        let (count, remaining) := indentsBeyond column outer rest
        (count + 1, remaining)
      else (0, indent, outer :: rest)

/-- All blocks end whose column lies to the right. -/
def closeBlocks (lexer : Lexer) (column : Int) : Lexer :=
  if lexer.inFlow then lexer
  else
    let (count, indent, outerIndents) := indentsBeyond column lexer.indent lexer.outerIndents
    { lexer with
      tokens := lexer.tokens ++ List.replicate count .blockEnd, indent, outerIndents }

/-- A new line may begin with a key, except inside brackets. -/
def skipGap (inFlow : Bool) : Bool → Bool → Source → Bool × Source
  | allowsKey, _, [] => (allowsKey, [])
  | allowsKey, inComment, glyph :: rest =>
      if isBreak glyph.character then skipGap inFlow (allowsKey || !inFlow) false rest
      else if isEnd glyph.character then (allowsKey, glyph :: rest)
      else if inComment then skipGap inFlow allowsKey true rest
      else if glyph.character = ' ' then skipGap inFlow allowsKey false rest
      else if glyph.character = '\t' ∧ (inFlow ∨ !allowsKey) then
        skipGap inFlow allowsKey false rest
      else if glyph.character = orderMark ∧ glyph.column = 0 then
        skipGap inFlow allowsKey false rest
      else if glyph.character = '#' then skipGap inFlow allowsKey true rest
      else (allowsKey, glyph :: rest)

/-! Names and addresses -/

def isNameCharacter (character : Char) : Bool :=
  Text.isDigit character || ('a' ≤ character && character ≤ 'z') ||
    ('A' ≤ character && character ≤ 'Z') || character = '_' || character = '-'

/-- The name of an anchor after its indicator. -/
def readName (source : Source) : Option (String × Source) :=
  let (name, rest) := source.readWhile isNameCharacter
  let ends := isBlankOrEnd rest.current ||
    ['?', ':', ',', ']', '\x7d', '%', '@', '`'].contains rest.current
  if name ≠ [] ∧ ends then some (String.ofList name, rest) else none

def isAddressCharacter (verbatim : Bool) (character : Char) : Bool :=
  isNameCharacter character ||
    [';', '/', '?', ':', '@', '&', '=', '+', '$', '.', '%', '!', '~', '*', '\'', '(', ')'].contains
      character ||
    (verbatim && [',', '[', ']'].contains character)

/-- A percent sign is followed by two hexadecimal digits. -/
def decodeAddress : List Char → Option (List Char)
  | [] => some []
  | '%' :: high :: low :: rest => do
      return Char.ofNat (← Text.hexNumber [high, low]) :: (← decodeAddress rest)
  | '%' :: _ => none
  | character :: rest => (decodeAddress rest).map (character :: ·)

def readAddress (verbatim : Bool) (source : Source) : Option (List Char × Source) :=
  let (written, rest) := source.readWhile (isAddressCharacter verbatim)
  (decodeAddress written).map fun address => (address, rest)

/-- The handle of a tag goes from its exclamation mark to the next one. -/
def readHandle (source : Source) : List Char × Source :=
  let (name, rest) := Source.readWhile isNameCharacter (source.drop 1)
  if rest.current = '!' then ('!' :: name ++ ['!'], rest.drop 1) else ('!' :: name, rest)

def readVerbatimTag (source : Source) : Option (Token × Source) := do
  let (address, rest) ← readAddress true (source.drop 2)
  if address = [] ∨ rest.current ≠ '>' then none
  else return (.tag "" (String.ofList address), rest.drop 1)

/-- A tag with a handle needs something after the handle. -/
def readShortTag (source : Source) : Option (Token × Source) := do
  let (handle, rest) := readHandle source
  if 1 < handle.length ∧ handle.getLast? = some '!' then
    let (suffix, rest) ← readAddress false rest
    if suffix = [] then none
    else return (.tag (String.ofList handle) (String.ofList suffix), rest)
  else
    let (suffix, rest) ← readAddress false rest
    let suffix := handle.drop 1 ++ suffix
    if suffix = [] then return (.tag "" "!", rest)
    else return (.tag "!" (String.ofList suffix), rest)

def readTag (inFlow : Bool) (source : Source) : Option (Token × Source) := do
  let (token, rest) ← if source.look 1 = '<' then readVerbatimTag source else readShortTag source
  if isBlankOrEnd rest.current ∨ (inFlow ∧ rest.current = ',') then return (token, rest) else none

/-! Directives -/

/-- A version number of at most nine digits. -/
def readVersionNumber (source : Source) : Option (Nat × Source) :=
  let (digits, rest) := source.readWhile Text.isDigit
  if digits = [] ∨ 9 < digits.length then none else some (Text.digitsValue digits, rest)

def readVersionDirective (source : Source) : Option (Token × Source) := do
  let (major, rest) ← readVersionNumber (source.readWhile isGap).2
  if rest.current ≠ '.' then none
  else
    let (minor, rest) ← readVersionNumber (rest.drop 1)
    return (.versionDirective major minor, rest)

/-- A tag directive names a handle and the start that it stands for. -/
def readTagDirective (source : Source) : Option (Token × Source) := do
  let source := (source.readWhile isGap).2
  if source.current ≠ '!' then none
  else
    let (handle, rest) := readHandle source
    if handle ≠ ['!'] ∧ handle.getLast? ≠ some '!' then none
    else if !isGap rest.current then none
    else
      let (start, rest) ← readAddress true (rest.readWhile isGap).2
      if start = [] ∨ !isBlankOrEnd rest.current then none
      else return (.tagDirective (String.ofList handle) (String.ofList start), rest)

def readDirective (source : Source) : Option (Token × Source) := do
  let (name, rest) := Source.readWhile isNameCharacter (source.drop 1)
  if !isBlankOrEnd rest.current then none
  else
    let (token, rest) ← match String.ofList name with
      | "YAML" => readVersionDirective rest
      | "TAG" => readTagDirective rest
      | _ => none
    return (token, ← readLineEnd rest)

/-! Tokens -/

/-- The lexer after a token, and the source behind it. -/
abbrev Step := Option (Lexer × Source)

def afterIndicator (lexer : Lexer) (length : Nat) (token : Token) (source : Source) : Step :=
  some (lexer.emit token, source.drop length)

/-- No key begins before this place. From here on there may be one, or not. -/
def settle (lexer : Lexer) (allowsKey : Bool) : Option Lexer :=
  lexer.forgetKey.map fun lexer => { lexer with allowsKey }

/-- Directives and document indicators end all blocks. -/
def outside (lexer : Lexer) : Option Lexer :=
  (lexer.closeBlocks (-1)).settle false

def flowStart (lexer : Lexer) (here : Glyph) (token : Token) (source : Source) : Step := do
  let lexer ← lexer.noteKey here
  let lexer :=
    { lexer with key := none, outerKeys := lexer.key :: lexer.outerKeys, allowsKey := true }
  lexer.afterIndicator 1 token source

def flowEnd (lexer : Lexer) (token : Token) (source : Source) : Step := do
  let lexer ← lexer.settle false
  let lexer :=
    match lexer.outerKeys with
    | [] => lexer
    | key :: outerKeys => { lexer with key, outerKeys }
  lexer.afterIndicator 1 token source

def flowEntry (lexer : Lexer) (source : Source) : Step := do
  (← lexer.settle true).afterIndicator 1 .flowEntry source

/-- In a block, an entry or a key must stand where a key may begin. -/
def mayOpen (lexer : Lexer) : Bool := lexer.inFlow || lexer.allowsKey

def blockEntry (lexer : Lexer) (here : Glyph) (source : Source) : Step :=
  if lexer.mayOpen then do
    let lexer := lexer.openBlockHere here.column .blockSequenceStart
    (← lexer.settle true).afterIndicator 1 .blockEntry source
  else none

def explicitKey (lexer : Lexer) (here : Glyph) (source : Source) : Step :=
  if lexer.mayOpen then do
    let lexer := lexer.openBlockHere here.column .blockMappingStart
    (← lexer.settle (!lexer.inFlow)).afterIndicator 1 .key source
  else none

/-- A colon makes a key of what could be one. -/
def value (lexer : Lexer) (here : Glyph) (source : Source) : Step :=
  match lexer.key with
  | some key =>
      let lexer := { lexer with tokens := lexer.tokens.insertIdx key.place .key }
      let lexer := lexer.openBlock key.start.column key.place .blockMappingStart
      { lexer with key := none, allowsKey := false }.afterIndicator 1 .value source
  | none =>
      if lexer.mayOpen then
        let lexer := lexer.openBlockHere here.column .blockMappingStart
        { lexer with allowsKey := !lexer.inFlow }.afterIndicator 1 .value source
      else none

/-- An alias, an anchor, a tag or a scalar may be a key, or begin one. -/
def keyed (lexer : Lexer) (here : Glyph) (read : Option (Token × Source)) : Step := do
  let lexer ← lexer.noteKey here
  let (token, rest) ← read
  return ({ lexer with allowsKey := false }.emit token, rest)

def quoted (style : ScalarStyle) (read : Option (List Char × Source)) : Option (Token × Source) :=
  read.map fun (content, rest) => (.scalar style (String.ofList content), rest)

def block (lexer : Lexer) (style : ScalarStyle) (source : Source) : Step := do
  let lexer ← lexer.settle true
  let (content, rest) ← readBlock (style = .folded) lexer.indent (source.drop 1)
  return (lexer.emit (.scalar style (String.ofList content)), rest)

/-- After a plain scalar a key may begin where the line ended behind the scalar. -/
def plain (lexer : Lexer) (here : Glyph) (source : Source) : Step := do
  let lexer ← lexer.noteKey here
  let limit := (lexer.indent + 1).toNat
  let (read, rest) ← readPlain (source.length + 1) lexer.inFlow limit false source
  let lexer := { lexer with allowsKey := read.broken }
  return (lexer.emit (.scalar .plain (String.ofList read.content)), rest)

def isIndicator (character : Char) : Bool :=
  ['-', '?', ':', ',', '[', ']', '\x7b', '\x7d', '#', '&', '*', '!', '|', '>', '\'', '"', '%', '@',
    '`'].contains character

/-- Some indicators begin a plain scalar where no white space follows them. -/
def beginsPlain (inFlow : Bool) (first second : Char) : Bool :=
  !(isBlankOrEnd first || isIndicator first) || (first = '-' && !isGap second) ||
    (!inFlow && (first = '?' || first = ':') && !isBlankOrEnd second)

/-- The token that begins with the first glyph of the source. -/
def token (lexer : Lexer) (here : Glyph) (source : Source) : Step :=
  let first := source.current
  let second := source.look 1
  let fuel := source.length + 1
  let indicates := lexer.inFlow || isBlankOrEnd second
  if first = '%' ∧ here.column = 0 then do
    let (token, rest) ← readDirective source
    return ((← lexer.outside).emit token, rest)
  else if source.isIndicator '-' then do (← lexer.outside).afterIndicator 3 .documentStart source
  else if source.isIndicator '.' then do (← lexer.outside).afterIndicator 3 .documentEnd source
  else if first = '[' then lexer.flowStart here .flowSequenceStart source
  else if first = '\x7b' then lexer.flowStart here .flowMappingStart source
  else if first = ']' then lexer.flowEnd .flowSequenceEnd source
  else if first = '\x7d' then lexer.flowEnd .flowMappingEnd source
  else if first = ',' then lexer.flowEntry source
  else if first = '-' ∧ isBlankOrEnd second then lexer.blockEntry here source
  else if first = '?' ∧ indicates then lexer.explicitKey here source
  else if first = ':' ∧ indicates then lexer.value here source
  else if first = '*' then
    lexer.keyed here ((readName (source.drop 1)).map fun (name, rest) => (.alias name, rest))
  else if first = '&' then
    lexer.keyed here ((readName (source.drop 1)).map fun (name, rest) => (.anchor name, rest))
  else if first = '!' then lexer.keyed here (readTag lexer.inFlow source)
  else if first = '|' ∧ !lexer.inFlow then lexer.block .literal source
  else if first = '>' ∧ !lexer.inFlow then lexer.block .folded source
  else if first = '\'' then
    lexer.keyed here (quoted .singleQuoted (readSingleQuoted fuel (source.drop 1)))
  else if first = '"' then
    lexer.keyed here (quoted .doubleQuoted (readDoubleQuoted fuel (source.drop 1)))
  else if beginsPlain lexer.inFlow first second then lexer.plain here source
  else none

/-- The end of the source ends all blocks, and stands on a line of its own. -/
def finish (lexer : Lexer) : Option (List Token) :=
  ((lexer.closeBlocks (-1)).forgetKey).map Lexer.tokens

/-- Every token but the last takes a character, so the fuel lasts. -/
def readTokens (fuel : Nat) (lexer : Lexer) (source : Source) : Option (List Token) :=
  match fuel with
  | 0 => none
  | fuel + 1 =>
      let (allowsKey, rest) := skipGap lexer.inFlow lexer.allowsKey false source
      match rest with
      | [] => none
      | here :: _ => do
          let lexer ← { lexer with allowsKey }.refreshKeys here
          let lexer := lexer.closeBlocks here.column
          if isEnd here.character then lexer.finish
          else
            let (lexer, rest) ← lexer.token here rest
            readTokens fuel lexer rest

end Lexer

/-- The tokens of a text, or nothing where it is not made of tokens. -/
def readTokens (text : String) : Option (List Token) := do
  let source ← Source.ofText? text
  Lexer.readTokens (source.length + 1) {} source

end ResourceApi.Yaml
