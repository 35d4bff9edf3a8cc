/-
This file builds the nodes of a YAML document from its tokens. An alias stands for the node with
its anchor. That node may lie around the alias, so it is looked up when it is needed.
-/

import ResourceApi.Yaml.Lexer

namespace ResourceApi.Yaml

inductive Node where
  | scalar (style : ScalarStyle) (tag : Option String) (content : String)
  | sequence (items : List Node)
  | mapping (fields : List (Node × Node))
  /-- The number is that of the anchor. -/
  | alias (anchor : Nat)
  deriving Inhabited

/-- Nothing is written where a node could stand. -/
def Node.missing : Node := .scalar .plain none ""

structure Document where
  /-- A text without any document has no root. -/
  root : Option Node := none
  anchored : List (Nat × Node) := []

/-- The node that an alias stands for. An anchor never belongs to an alias. -/
def Document.follow (document : Document) : Node → Option Node
  | .alias anchor => document.anchored.lookup anchor
  | node => some node

namespace Node

/-- The tokens that are left, and what is known of handles and anchors. -/
structure Progress where
  tokens : List Token
  handles : List (String × String) := []
  /-- The last use of a name comes first. -/
  names : List (String × Nat) := []
  anchored : List (Nat × Node) := []

abbrev Build := StateT Progress Option

def peek : Build (Option Token) := do
  return (← get).tokens.head?

def skip : Build Unit :=
  modify fun progress => { progress with tokens := progress.tokens.drop 1 }

def refuse {Value : Type} : Build Value := fun _ => none

def expect (token : Token) : Build Unit := do
  if (← peek) = some token then skip else refuse

/-- These handles are known without a directive. -/
def knownHandles : List (String × String) := [("!", "!"), ("!!", "tag:yaml.org,2002:")]

def resolveTag (handle suffix : String) : Build String := do
  if handle = "" then return suffix
  else
    match ((← get).handles ++ knownHandles).lookup handle with
    | some start => return start ++ suffix
    | none => refuse

def findAnchor (name : String) : Build Nat := do
  match (← get).names.lookup name with
  | some anchor => return anchor
  | none => refuse

def newAnchor (name : String) : Build Nat := do
  let progress ← get
  let anchor := progress.names.length
  set { progress with names := (name, anchor) :: progress.names }
  return anchor

structure Properties where
  anchor : Option Nat := none
  tag : Option String := none

def readAnchor : Build (Option Nat) := do
  match ← peek with
  | some (.anchor name) => skip; return some (← newAnchor name)
  | _ => return none

def readTag : Build (Option String) := do
  match ← peek with
  | some (.tag handle suffix) => skip; return some (← resolveTag handle suffix)
  | _ => return none

/-- An anchor and a tag stand before a node in either order. -/
def readProperties : Build Properties := do
  match ← readAnchor with
  | some anchor => return { anchor := some anchor, tag := ← readTag }
  | none =>
      match ← readTag with
      | some tag => return { tag := some tag, anchor := ← readAnchor }
      | none => return {}

def noteAnchor (properties : Properties) (node : Node) : Build Unit :=
  match properties.anchor with
  | none => return ()
  | some anchor =>
      modify fun progress => { progress with anchored := (anchor, node) :: progress.anchored }

/-- Whether there is no node before what comes next. -/
def isMissing (ends : List Token) : Build Bool := do
  match ← peek with
  | some token => return ends.contains token
  | none => return false

mutual

/-- Only some nodes may be block collections or sequences that are not indented. -/
def readNode (fuel : Nat) (inBlock unindented : Bool) : Build Node :=
  match fuel with
  | 0 => refuse
  | fuel + 1 => do
      match ← peek with
      | some (.alias name) => skip; return .alias (← findAnchor name)
      | _ =>
          let properties ← readProperties
          let node ← readContent fuel inBlock unindented properties
          noteAnchor properties node
          return node

def readContent (fuel : Nat) (inBlock unindented : Bool) (properties : Properties) :
    Build Node :=
  match fuel with
  | 0 => refuse
  | fuel + 1 => do
      match ← peek, inBlock, unindented with
      | some .blockEntry, _, true => return .sequence (← readUnindented fuel)
      | some (.scalar style content), _, _ => skip; return .scalar style properties.tag content
      | some .flowSequenceStart, _, _ => skip; return .sequence (← readFlowItems fuel true)
      | some .flowMappingStart, _, _ => skip; return .mapping (← readFlowFields fuel true)
      | some .blockSequenceStart, true, _ => skip; return .sequence (← readBlockItems fuel)
      | some .blockMappingStart, true, _ => skip; return .mapping (← readBlockFields fuel)
      | _, _, _ =>
          if properties.anchor.isSome || properties.tag.isSome then
            return .scalar .plain properties.tag ""
          else refuse

/-- A node of a block, unless it is missing. -/
def readBlockNode (fuel : Nat) (unindented : Bool) (ends : List Token) : Build Node :=
  match fuel with
  | 0 => refuse
  | fuel + 1 => do
      if ← isMissing ends then return missing else readNode fuel true unindented

def readBlockItems (fuel : Nat) : Build (List Node) :=
  match fuel with
  | 0 => refuse
  | fuel + 1 => do
      match ← peek with
      | some .blockEntry =>
          skip
          let item ← readBlockNode fuel false [.blockEntry, .blockEnd]
          return item :: (← readBlockItems fuel)
      | some .blockEnd => skip; return []
      | _ => refuse

def readUnindented (fuel : Nat) : Build (List Node) :=
  match fuel with
  | 0 => refuse
  | fuel + 1 => do
      match ← peek with
      | some .blockEntry =>
          skip
          let item ← readBlockNode fuel false [.blockEntry, .key, .value, .blockEnd]
          return item :: (← readUnindented fuel)
      | _ => return []

/-- A key without a colon after it has no value. -/
def readBlockFields (fuel : Nat) : Build (List (Node × Node)) :=
  match fuel with
  | 0 => refuse
  | fuel + 1 => do
      match ← peek with
      | some .key =>
          skip
          let ends := [Token.key, .value, .blockEnd]
          let key ← readBlockNode fuel true ends
          let value ← match ← peek with
            | some .value => skip; readBlockNode fuel true ends
            | _ => pure missing
          return (key, value) :: (← readBlockFields fuel)
      | some .blockEnd => skip; return []
      | _ => refuse

/-- A node inside brackets, unless it is missing. -/
def readFlowNode (fuel : Nat) (ends : List Token) : Build Node :=
  match fuel with
  | 0 => refuse
  | fuel + 1 => do
      if ← isMissing ends then return missing else readNode fuel false false

/-- The value after a colon inside brackets. -/
def readFlowValue (fuel : Nat) (last : Token) : Build Node :=
  match fuel with
  | 0 => refuse
  | fuel + 1 => do
      match ← peek with
      | some .value => skip; readFlowNode fuel [.flowEntry, last]
      | _ => return missing

/-- A single field may stand for a mapping among the items of a sequence. -/
def readSingleField (fuel : Nat) : Build Node :=
  match fuel with
  | 0 => refuse
  | fuel + 1 => do
      if ← isMissing [.value, .flowEntry, .flowSequenceEnd] then
        skip
        return .mapping [(missing, ← readFlowValue fuel .flowSequenceEnd)]
      else
        let key ← readNode fuel false false
        return .mapping [(key, ← readFlowValue fuel .flowSequenceEnd)]

def readFlowItems (fuel : Nat) (first : Bool) : Build (List Node) :=
  match fuel with
  | 0 => refuse
  | fuel + 1 => do
      if (← peek) = some .flowSequenceEnd then
        skip
        return []
      else
        if !first then expect .flowEntry
        match ← peek with
        | some .key =>
            skip
            let item ← readSingleField fuel
            return item :: (← readFlowItems fuel false)
        | some .flowSequenceEnd => skip; return []
        | _ =>
            let item ← readNode fuel false false
            return item :: (← readFlowItems fuel false)

def readFlowFields (fuel : Nat) (first : Bool) : Build (List (Node × Node)) :=
  match fuel with
  | 0 => refuse
  | fuel + 1 => do
      if (← peek) = some .flowMappingEnd then
        skip
        return []
      else
        if !first then expect .flowEntry
        match ← peek with
        | some .key =>
            skip
            let key ← readFlowNode fuel [.value, .flowEntry, .flowMappingEnd]
            let value ← readFlowValue fuel .flowMappingEnd
            return (key, value) :: (← readFlowFields fuel false)
        | some .flowMappingEnd => skip; return []
        | _ =>
            let key ← readNode fuel false false
            return (key, missing) :: (← readFlowFields fuel false)

end

/-- There is one version at most, and no handle is named twice. -/
def readDirectives (fuel : Nat) (versioned : Bool) : Build Unit :=
  match fuel with
  | 0 => refuse
  | fuel + 1 => do
      match ← peek with
      | some (.versionDirective major minor) =>
          skip
          if versioned || major != 1 || (minor != 1 && minor != 2) then refuse
          else readDirectives fuel true
      | some (.tagDirective handle start) =>
          skip
          let progress ← get
          if (progress.handles.lookup handle).isSome then refuse
          else
            set { progress with handles := (handle, start) :: progress.handles }
            readDirectives fuel versioned
      | _ => return ()

def isDirective : Token → Bool
  | .versionDirective .. => true
  | .tagDirective .. => true
  | _ => false

/-- After its start, a document may be empty. -/
def readStarted (fuel : Nat) : Build Node := do
  match ← peek with
  | none => return missing
  | some token =>
      if isDirective token || [Token.documentStart, .documentEnd].contains token then
        return missing
      else readNode fuel true false

def skipEnds (progress : Progress) : Progress :=
  { progress with tokens := progress.tokens.dropWhile (· = .documentEnd) }

/-- A document without directives needs no mark at its start. -/
def readDocument (fuel : Nat) : Build (Option Node) := do
  match ← peek with
  | none => return none
  | some token =>
      let explicit := isDirective token || token == .documentStart
      if explicit then
        readDirectives fuel false
        expect .documentStart
      let root ← if explicit then readStarted fuel else readNode fuel true false
      modify skipEnds
      if (← peek).isSome then refuse else return some root

end Node

/-- The fuel is more than twice the number of tokens, which is enough. -/
def Document.parse? (text : String) : Option Document := do
  let tokens ← readTokens text
  let (root, progress) ← (Node.readDocument (4 * tokens.length + 8)).run { tokens }
  return { root, anchored := progress.anchored }

end ResourceApi.Yaml
