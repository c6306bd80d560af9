import NetworkRollout.Yaml.Token

/-!
# The documents of a YAML text

A document is a tree of scalars, sequences and mappings, with tags resolved and aliases left as
references to the node they name. Block and flow collections differ only in their tokens.
-/

namespace NetworkRollout.Yaml

inductive Node where
  | scalar (tag : Option String) (plain : Bool) (text : String)
  | sequence (tag : Option String) (items : List Node)
  | mapping (tag : Option String) (entries : List (Node × Node))
  | alias (anchor : Nat)
  deriving Inhabited, Repr

namespace Node

def empty : Node := .scalar none true ""

mutual

/-- The number of marks in a node: one for a scalar or an alias, two for a collection, and those
of its parts. -/
def size : Node → Nat
  | .scalar .. => 1
  | .alias _ => 1
  | .sequence _ items => sizeItems items + 2
  | .mapping _ entries => sizeEntries entries + 2

def sizeItems : List Node → Nat
  | [] => 0
  | n :: ns => n.size + sizeItems ns

def sizeEntries : List (Node × Node) → Nat
  | [] => 0
  | (k, v) :: es => k.size + v.size + sizeEntries es

end

end Node

/-- A document: its root, none in a text without any, and the anchored nodes. -/
structure Document where
  root : Option Node
  anchored : Array (Nat × Node) := #[]
  deriving Inhabited, Repr

namespace Document

/-- The node that an anchor names: the last one that was given its number. -/
def anchor? (d : Document) (n : Nat) : Option Node :=
  (d.anchored.toList.reverse.lookup n)

def size (d : Document) : Nat := (d.root.map Node.size).getD 1

end Document

/-- The reading of a document: the tokens ahead, the tag handles, the numbers of the anchor names
and the nodes read for them in the order of their start. -/
structure DocumentReader where
  tokens : List Token
  handles : List (String × String) := []
  anchors : List (String × Nat) := []
  anchored : Array (Nat × Node) := #[]

/-- A step of the reading, which fails on a malformed text. -/
abbrev ReadNode := StateT DocumentReader Option

namespace ReadNode

def peek : ReadNode (Option Token) := return (← get).tokens.head?

def advance : ReadNode Unit := modify fun r => { r with tokens := r.tokens.drop 1 }

def accept (t : Token) : ReadNode Bool := do
  if (← peek) = some t then
    advance
    return true
  else return false

def fail : ReadNode α := fun _ => none

/-- Whether the token ahead is one of the given ones, or the text ends. -/
def aheadIn (ts : List Token) : ReadNode Bool := return (← peek).all (· ∈ ts)

/-- Gives an anchor name a number, which is how many names there are, and reserves a place for
its node. A name given again gets a number that a later name may share. -/
def defineAnchor (name : String) : ReadNode Nat := do
  let r ← get
  let n := r.anchors.length
  set { r with
    anchors := (name, n) :: r.anchors.filter (·.1 ≠ name)
    anchored := r.anchored.push (n, .empty) }
  return r.anchored.size

def resolveTag (handle suffix : String) : ReadNode String := do
  if handle = "" then return suffix
  else
    match (← get).handles.lookup handle with
    | some replacement => return replacement ++ suffix
    | none => fail

/-- The properties of a node: a tag and an anchor in either order. -/
def properties : ReadNode (Option String × Option String) := do
  match ← peek with
  | some (.anchor name) =>
    advance
    match ← peek with
    | some (.tag handle suffix) =>
      advance
      return (some (← resolveTag handle suffix), some name)
    | _ => return (none, some name)
  | some (.tag handle suffix) =>
    advance
    match ← peek with
    | some (.anchor name) =>
      advance
      return (some (← resolveTag handle suffix), some name)
    | _ => return (some (← resolveTag handle suffix), none)
  | _ => return (none, none)

/-- Where a node stands: in a flow collection, in a block, or as the value of a block mapping,
where a sequence need not be indented. -/
inductive Place where
  | flow
  | block
  | mappingValue
  deriving DecidableEq

def keepAnchored (place : Option Nat) (node : Node) : ReadNode Unit :=
  match place with
  | some i => modify fun r => { r with anchored := r.anchored.modify i fun (n, _) => (n, node) }
  | none => return ()

mutual

def node : Nat → Place → ReadNode Node
  | 0, _ => fail
  | fuel + 1, place => do
    match ← peek with
    | some (.alias name) =>
      advance
      match (← get).anchors.lookup name with
      | some n => return .alias n
      | none => fail
    | _ =>
      let (tag, name) ← properties
      let anchor ← name.mapM defineAnchor
      let result ← content fuel place tag (tag.isSome || name.isSome)
      keepAnchored anchor result
      return result

/-- A node behind its properties. With properties it may be empty. -/
def content : Nat → Place → Option String → Bool → ReadNode Node
  | 0, _, _, _ => fail
  | fuel + 1, place, tag, mayBeEmpty => do
    match ← peek with
    | some (.scalar text plain) =>
      advance
      return .scalar (if tag = some "!" then none else tag) plain text
    | some .flowSequenceStart =>
      advance
      return .sequence tag (← flowItems fuel true)
    | some .flowMappingStart =>
      advance
      return .mapping tag (← flowEntries fuel true)
    | some .blockEntry =>
      if place = .mappingValue then return .sequence tag (← bareItems fuel)
      else if mayBeEmpty then return .scalar tag true ""
      else fail
    | some .blockSequenceStart =>
      if place = .flow then
        if mayBeEmpty then return .scalar tag true "" else fail
      else
        advance
        return .sequence tag (← blockItems fuel)
    | some .blockMappingStart =>
      if place = .flow then
        if mayBeEmpty then return .scalar tag true "" else fail
      else
        advance
        return .mapping tag (← blockEntries fuel)
    | _ => if mayBeEmpty then return .scalar tag true "" else fail

/-- A node, or the empty scalar in front of one of the given tokens. -/
def nodeUnless : Nat → Place → List Token → ReadNode Node
  | 0, _, _ => fail
  | fuel + 1, place, ts => do
    match ← peek with
    | some t => if t ∈ ts then return .empty else node fuel place
    | none => node fuel place

def blockItems : Nat → ReadNode (List Node)
  | 0 => fail
  | fuel + 1 => do
    if ← accept .blockEntry then
      let item ← nodeUnless fuel .block [.blockEntry, .blockEnd]
      return item :: (← blockItems fuel)
    else if ← accept .blockEnd then return []
    else fail

/-- The entries of a sequence at the indentation of its mapping. -/
def bareItems : Nat → ReadNode (List Node)
  | 0 => fail
  | fuel + 1 => do
    if ← accept .blockEntry then
      let item ← nodeUnless fuel .block [.blockEntry, .key, .value, .blockEnd]
      return item :: (← bareItems fuel)
    else return []

def blockEntries : Nat → ReadNode (List (Node × Node))
  | 0 => fail
  | fuel + 1 => do
    if ← accept .key then
      let k ← nodeUnless fuel .mappingValue [.key, .value, .blockEnd]
      return (k, ← blockValue fuel) :: (← blockEntries fuel)
    else if ← accept .blockEnd then return []
    else fail

def blockValue : Nat → ReadNode Node
  | 0 => fail
  | fuel + 1 => do
    if ← accept .value then nodeUnless fuel .mappingValue [.key, .value, .blockEnd]
    else return .empty

/-- The items of a flow sequence. A key makes an item that is a mapping of one entry. -/
def flowItems : Nat → Bool → ReadNode (List Node)
  | 0, _ => fail
  | fuel + 1, first => do
    if ← accept .flowSequenceEnd then return []
    else
      if !first && !(← accept .flowEntry) then fail
      else if ← accept .key then
        let entry ← singleEntry fuel
        return .mapping none [entry] :: (← flowItems fuel false)
      else if ← accept .flowSequenceEnd then return []
      else
        let item ← node fuel .flow
        return item :: (← flowItems fuel false)

/-- The entry of a mapping that is an item of a flow sequence. An empty key takes the token behind
it along. -/
def singleEntry : Nat → ReadNode (Node × Node)
  | 0 => fail
  | fuel + 1 => do
    let k ← if ← aheadIn [.value, .flowEntry, .flowSequenceEnd] then do
        advance
        pure Node.empty
      else node fuel .flow
    if ← accept .value then
      return (k, ← nodeUnless fuel .flow [.flowEntry, .flowSequenceEnd])
    else return (k, .empty)

def flowEntries : Nat → Bool → ReadNode (List (Node × Node))
  | 0, _ => fail
  | fuel + 1, first => do
    if ← accept .flowMappingEnd then return []
    else
      if !first && !(← accept .flowEntry) then fail
      else if ← accept .key then
        let k ← nodeUnless fuel .flow [.value, .flowEntry, .flowMappingEnd]
        let v ← if ← accept .value then nodeUnless fuel .flow [.flowEntry, .flowMappingEnd]
          else pure Node.empty
        return (k, v) :: (← flowEntries fuel false)
      else if ← accept .flowMappingEnd then return []
      else
        let k ← node fuel .flow
        return (k, .empty) :: (← flowEntries fuel false)

end

/-- The directives in front of a document: at most one version, 1.1 or 1.2, and each handle
once. -/
def directives : Nat → Bool → ReadNode Unit
  | 0, _ => fail
  | fuel + 1, versioned => do
    match ← peek with
    | some (.versionDirective major minor) =>
      if versioned || major ≠ 1 || (minor ≠ 1 && minor ≠ 2) then fail
      else
        advance
        directives fuel true
    | some (.tagDirective handle replacement) =>
      if ((← get).handles.lookup handle).isSome then fail
      else
        advance
        modify fun r => { r with handles := (handle, replacement) :: r.handles }
        directives fuel versioned
    | _ =>
      modify fun r =>
        { r with handles := r.handles ++ [("!", "!"), ("!!", "tag:yaml.org,2002:")] }

def skipDocumentEnds : Nat → ReadNode Unit
  | 0 => return ()
  | fuel + 1 => do
    if ← accept .documentEnd then skipDocumentEnds fuel else return ()

def onDirective : ReadNode Bool := do
  match ← peek with
  | some (.versionDirective ..) => return true
  | some (.tagDirective ..) => return true
  | _ => return false

/-- The content of an explicit document, which may be empty. -/
def documentContent (fuel : Nat) : ReadNode Node := do
  match ← peek with
  | none => return .empty
  | some .documentStart => return .empty
  | some .documentEnd => return .empty
  | _ => if ← onDirective then return .empty else node fuel .block

def startDocument : ReadNode Unit :=
  modify fun r => { r with handles := [], anchors := [], anchored := #[] }

/-- The next document, none at the end of the text. Only the first may lack its mark. -/
def document? (fuel : Nat) (first : Bool) : ReadNode (Option Document) := do
  startDocument
  if !first then skipDocumentEnds fuel
  match ← peek with
  | none => return none
  | some t =>
    let marked := t = .documentStart || (← onDirective)
    let root ←
      if first && !marked then do
        directives fuel false
        node fuel .block
      else do
        directives fuel false
        if ← accept .documentStart then documentContent fuel else fail
    let _ ← accept .documentEnd
    return some { root := some root, anchored := (← get).anchored }

def documents (fuel : Nat) : Nat → Bool → ReadNode (List Document)
  | 0, _ => fail
  | n + 1, first => do
    match ← document? fuel first with
    | none => return []
    | some d => return d :: (← documents fuel n false)

end ReadNode

/-- The documents of a text; a text without any holds one document without a root. -/
def documents? (text : List Char) : Option (List Document) := do
  let tokens ← tokens? text
  let fuel := 4 * tokens.length + 8
  let (ds, _) ← (ReadNode.documents fuel fuel true).run { tokens }
  return if ds.isEmpty then [{ root := none }] else ds

end NetworkRollout.Yaml
