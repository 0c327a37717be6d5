import NodeScaling.Yaml.Scanning

/-!
YAML documents as trees of nodes, made from tokens; a text may hold at most one document. Tags are
written out in full. Each name of an anchor has a number, which is how many names are known where an
anchor with the name is written; a name that is written again gets a new number. An alias is a node
of its own, which stands for the number that its name has there, and a number for the last anchor of
the whole document that got it. So two names can come to share a number, and then their aliases
stand for one node.
-/
namespace NodeScaling.Yaml

structure Anchors where
  /-- The names that are known with their numbers, each name once. -/
  names : List (String × Nat) := []
  /-- The numbers of the anchors, the latest first. -/
  numbers : List Nat := []

namespace Anchors

def size (a : Anchors) : Nat :=
  a.numbers.length

def push (a : Anchors) (name : String) : Anchors :=
  let number := a.names.length
  { names := (name, number) :: a.names.filter fun known => known.1 ≠ name
    numbers := number :: a.numbers }

def number? (a : Anchors) (name : String) : Option Nat :=
  a.names.lookup name

def position? (a : Anchors) (number : Nat) : Option Nat :=
  (a.numbers.findIdx? (· = number)).map fun later => a.size - 1 - later

end Anchors

structure Scalar where
  text : String
  style : Style := .plain
  tag : Option TagText := none
  deriving DecidableEq, Repr

/-- A node. Collections do not keep their tags. -/
inductive Node where
  | scalar (content : Scalar)
  | sequence (elements : List Node)
  | mapping (entries : List (Node × Node))
  | alias (number : Nat)

def Node.empty : Node :=
  .scalar { text := "" }

structure Document where
  content : Node
  anchors : Anchors := {}
  anchored : List (Nat × Node) := []

def Document.resolve? (d : Document) : Node → Option Node
  | .alias number => (d.anchors.position? number).bind fun position => d.anchored.lookup position
  | node => some node

namespace Document

structure Builder where
  tokens : List Token
  /-- What tag handles stand for, the first one counting. -/
  handles : List (String × TagText)
  anchors : Anchors := {}
  anchored : List (Nat × Node) := []

abbrev Build := StateT Builder Option

def peek : Build (Option Token) := do
  return (← get).tokens.head?

def advance : Build Unit :=
  modify fun b => { b with tokens := b.tokens.tail }

def refuse {α : Type} : Build α :=
  fun _ => none

def startAnchored (name : Option String) : Build (Option Nat) := do
  match name with
  | none => return none
  | some name =>
    let position := (← get).anchors.size
    modify fun b => { b with anchors := b.anchors.push name }
    return some position

def keepAnchored (position : Option Nat) (node : Node) : Build Unit :=
  match position with
  | some position => modify fun b => { b with anchored := (position, node) :: b.anchored }
  | none => pure ()

def aliasOf (name : String) : Build Node := do
  match (← get).anchors.number? name with
  | some number => return .alias number
  | none => refuse

def fullTag (handle : String) (suffix : TagText) : Build TagText := do
  if handle.isEmpty then
    return suffix
  match (← get).handles.lookup handle with
  | some expansion => return expansion ++ suffix
  | none => refuse

def takeAnchor : Build (Option String) := do
  match ← peek with
  | some (.anchor name) => advance; return some name
  | _ => return none

def takeTag : Build (Option (String × TagText)) := do
  match ← peek with
  | some (.tag handle suffix) => advance; return some (handle, suffix)
  | _ => return none

def takeProperties : Build (Option String × Option TagText) := do
  let first ← takeAnchor
  let tag ← takeTag
  let anchor ← if first.isNone && tag.isSome then takeAnchor else pure first
  match tag with
  | some (handle, suffix) => return (anchor, some (← fullTag handle suffix))
  | none => return (anchor, none)

mutual

/-- Builds a node, with a bound on the nesting. Block collections may not stand inside of flow
collections, and a sequence that is not indented only as an entry of a block mapping. -/
def build : Nat → (inBlock unindented : Bool) → Build Node
  | 0, _, _ => refuse
  | depth + 1, inBlock, unindented => do
    match ← peek with
    | some (.alias name) => advance; aliasOf name
    | _ =>
      let (anchor, tag) ← takeProperties
      let position ← startAnchored anchor
      let finish (node : Node) : Build Node := do
        keepAnchored position node
        return node
      match ← peek with
      | some (.scalar text style) =>
        advance
        finish (.scalar { text, style, tag })
      | some .flowSequenceStart =>
        advance
        finish (.sequence (← buildFlowElements depth true))
      | some .flowMappingStart =>
        advance
        finish (.mapping (← buildFlowEntries depth true))
      | some .blockEntry =>
        if unindented then
          finish (.sequence (← buildUnindented depth))
        else if anchor.isSome || tag.isSome then finish (.scalar { text := "", tag })
        else refuse
      | some .blockSequenceStart =>
        if inBlock then
          advance
          finish (.sequence (← buildBlockElements depth))
        else if anchor.isSome || tag.isSome then finish (.scalar { text := "", tag })
        else refuse
      | some .blockMappingStart =>
        if inBlock then
          advance
          finish (.mapping (← buildBlockEntries depth))
        else if anchor.isSome || tag.isSome then finish (.scalar { text := "", tag })
        else refuse
      | _ =>
        if anchor.isSome || tag.isSome then finish (.scalar { text := "", tag })
        else refuse

def buildUnless : Nat → (inBlock unindented : Bool) → List Token → Build Node
  | 0, _, _, _ => refuse
  | depth + 1, inBlock, unindented, ends => do
    match ← peek with
    | some t => if ends.contains t then return .empty else build depth inBlock unindented
    | none => build depth inBlock unindented

def buildBlockElements : Nat → Build (List Node)
  | 0 => refuse
  | depth + 1 => do
    match ← peek with
    | some .blockEntry =>
      advance
      let first ← buildUnless depth true false [.blockEntry, .blockEnd]
      return first :: (← buildBlockElements depth)
    | some .blockEnd => advance; return []
    | _ => refuse

def buildUnindented : Nat → Build (List Node)
  | 0 => refuse
  | depth + 1 => do
    match ← peek with
    | some .blockEntry =>
      advance
      let first ← buildUnless depth true false [.blockEntry, .key, .value, .blockEnd]
      return first :: (← buildUnindented depth)
    | _ => return []

def buildBlockEntries : Nat → Build (List (Node × Node))
  | 0 => refuse
  | depth + 1 => do
    match ← peek with
    | some .key =>
      advance
      let key ← buildUnless depth true true [.key, .value, .blockEnd]
      let value ←
        match ← peek with
        | some .value =>
          advance
          buildUnless depth true true [.key, .value, .blockEnd]
        | _ => pure .empty
      return (key, value) :: (← buildBlockEntries depth)
    | some .blockEnd => advance; return []
    | _ => refuse

def buildFlowValue : Nat → Token → Build Node
  | 0, _ => refuse
  | depth + 1, close => do
    match ← peek with
    | some .value =>
      advance
      buildUnless depth false false [.flowEntry, close]
    | _ => return .empty

/-- The elements of a flow sequence up to its end. A key makes a mapping of one entry. -/
def buildFlowElements : Nat → Bool → Build (List Node)
  | 0, _ => refuse
  | depth + 1, atStart => do
    match ← peek with
    | some .flowSequenceEnd => advance; return []
    | next =>
      if !atStart then
        if next = some .flowEntry then advance else refuse
      match ← peek with
      | some .flowSequenceEnd => advance; return []
      | some .key =>
        advance
        let key ← buildUnless depth false false [.value, .flowEntry, .flowSequenceEnd]
        let value ← buildFlowValue depth .flowSequenceEnd
        return .mapping [(key, value)] :: (← buildFlowElements depth false)
      | _ =>
        let element ← build depth false false
        return element :: (← buildFlowElements depth false)

def buildFlowEntries : Nat → Bool → Build (List (Node × Node))
  | 0, _ => refuse
  | depth + 1, atStart => do
    match ← peek with
    | some .flowMappingEnd => advance; return []
    | next =>
      if !atStart then
        if next = some .flowEntry then advance else refuse
      match ← peek with
      | some .flowMappingEnd => advance; return []
      | some .key =>
        advance
        let key ← buildUnless depth false false [.value, .flowEntry, .flowMappingEnd]
        let value ← buildFlowValue depth .flowMappingEnd
        return (key, value) :: (← buildFlowEntries depth false)
      | _ =>
        let key ← build depth false false
        return (key, .empty) :: (← buildFlowEntries depth false)

end

def defaultHandles : List (String × TagText) :=
  [("!", TagText.ofAscii "!"), ("!!", TagText.ofAscii "tag:yaml.org,2002:")]

def isKnownVersion (major minor : Nat) : Bool :=
  major == 1 && (minor == 1 || minor == 2)

def directives? (versioned : Bool) (handles : List (String × TagText)) :
    List Token → Option (List (String × TagText) × List Token)
  | .version major minor :: ts =>
    if versioned || !isKnownVersion major minor then none else directives? true handles ts
  | .tagHandle handle expansion :: ts =>
    if (handles.lookup handle).isSome then none
    else directives? versioned (handles ++ [(handle, expansion)]) ts
  | ts => some (handles, ts)

def isOver (tokens : List Token) : Bool :=
  tokens.all fun t => t = .documentEnd

def ofContent? (handles : List (String × TagText)) (tokens : List Token) : Option Document := do
  let (content, left) ← (build (4 * tokens.length + 4) true false).run { tokens, handles }
  if isOver left.tokens then
    some { content, anchors := left.anchors, anchored := left.anchored }
  else none

/-- The document that tokens make up: none within the answer if there is no document at all. -/
def ofTokens? (tokens : List Token) : Option (Option Document) :=
  match tokens with
  | [] => some none
  | .version _ _ :: _ | .tagHandle _ _ :: _ | .documentStart :: _ => do
    match ← directives? false [] tokens with
    | (handles, .documentStart :: ts) =>
      if isOver ts then return some { content := .empty }
      return some (← ofContent? (handles ++ defaultHandles) ts)
    | _ => none
  | _ => (ofContent? defaultHandles tokens).map some

def read? (s : String) : Option (Option Document) :=
  (tokens? s).bind ofTokens?

end Document

end NodeScaling.Yaml
