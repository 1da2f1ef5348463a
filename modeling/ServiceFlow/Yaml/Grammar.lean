import ServiceFlow.Yaml.Node
import ServiceFlow.Yaml.Token

/-!
# The grammar of YAML

The nodes of a text are read off its tokens from left to right. Reading keeps the tokens that are
left, the nodes so far, and the names under which some of them can be met again; a name is known
from the start of its node on, so that a collection can name itself.

Every rule takes a token before it calls another, or hands over to a rule that does, so four times
the number of tokens bounds the depth of calls.
-/

namespace ServiceFlow.Yaml

/-- The tag handles of a document. -/
abbrev Handles := List (String × String)

/-- The handles that every document has unless it says otherwise. -/
def defaultHandles : Handles := [("!", "!"), ("!!", Tag.standard)]

/-- Where reading the nodes of a text stands. -/
structure Reading where
  tokens : List Token
  handles : Handles := defaultHandles
  nodes : Nodes := #[]
  /-- The nodes that have a name. -/
  anchors : List (String × Nat) := []

/-- A rule of the grammar. -/
abbrev Rule := StateT Reading (Except Fault)

namespace Grammar

/-- The next token, which stays. A fault that keeps the tokens back is met here. -/
def peek : Rule Token := do
  match (← get).tokens with
  | [] => return .streamEnd
  | .stop fault :: _ => throw fault
  | t :: _ => return t

/-- Takes the next token. -/
def skip : Rule Unit := modify fun s => { s with tokens := s.tokens.tail }

/-- Gives up. -/
def refuse {α : Type} : Rule α := throw .malformed

/-! ## Nodes and their properties -/

/-- What stands in front of the content of a node. -/
structure Properties where
  anchor : Option String := none
  /-- The full name of the tag. -/
  tag : Option String := none

/-- The full name of a tag. -/
def tagName (handle : Option String) (suffix : String) : Rule String := do
  match handle with
  | none => return suffix
  | some h => match (← get).handles.find? (·.1 == h) with
    | some (_, start) => return start ++ suffix
    | none => refuse

/-- Reads an anchor and a tag in either order, at most one of each. -/
def properties : Rule Properties := do
  match ← peek with
  | .anchor a => do
    skip
    match ← peek with
    | .tag h s => do
      skip
      return ⟨some a, some (← tagName h s)⟩
    | _ => return ⟨some a, none⟩
  | .tag h s => do
    skip
    match ← peek with
    | .anchor a => do
      skip
      return ⟨some a, some (← tagName h s)⟩
    | _ => return ⟨none, some (← tagName h s)⟩
  | _ => return {}

/-- The tag of a collection; a lone exclamation mark says nothing. -/
def Properties.collectionTag (p : Properties) (usual : Tag) : Tag :=
  match p.tag with
  | none | some "!" => usual
  | some name => Tag.ofName name

/-- The tag of a scalar. Its form decides when it is plain or has a lone exclamation mark for a tag.
-/
def Properties.scalarTag (p : Properties) (plain : Bool) (text : String) : Tag :=
  match p.tag with
  | none => if plain then Tag.ofPlain text else .text
  | some "!" => Tag.ofPlain text
  | some name => Tag.ofName name

/-- Adds a node, under its name if it has one. No name is given twice. -/
def add (anchor : Option String) (node : Node) : Rule Nat := do
  let s ← get
  let n := s.nodes.size
  match anchor with
  | none => set { s with nodes := s.nodes.push node }
  | some name =>
    if s.anchors.any (·.1 == name) then refuse
    else set { s with nodes := s.nodes.push node, anchors := (name, n) :: s.anchors }
  return n

/-- Adds a scalar. -/
def Properties.scalar (p : Properties) (plain : Bool) (text : String) : Rule Nat :=
  add p.anchor ⟨p.scalarTag plain text, .scalar text⟩

/-- Adds a sequence, whose items are read once it is there. -/
def Properties.sequence (p : Properties) (items : Rule (List Nat)) : Rule Nat := do
  let n ← add p.anchor ⟨p.collectionTag .sequence, .sequence []⟩
  let items ← items
  modify fun s => { s with nodes := s.nodes.setContent n (.sequence items) }
  return n

/-- Adds a mapping, whose entries are read once it is there. -/
def Properties.mapping (p : Properties) (entries : Rule (List (Nat × Nat))) : Rule Nat := do
  let n ← add p.anchor ⟨p.collectionTag .mapping, .mapping []⟩
  let entries ← entries
  modify fun s => { s with nodes := s.nodes.setContent n (.mapping entries) }
  return n

/-- Adds a node that is not written. -/
def missing : Rule Nat := add none .empty

/-- The node of an alias. -/
def named (name : String) : Rule Nat := do
  match (← get).anchors.find? (·.1 == name) with
  | some (_, n) => return n
  | none => refuse

/-! ## Collections -/

/-- Where a node stands decides what may start there. -/
inductive Position where
  /-- Inside a flow collection. -/
  | flow
  /-- Outside flow collections. -/
  | block
  /-- As key or value of a block mapping, where dashes need no indentation of their own. -/
  | entry
  deriving DecidableEq, Repr

/-- Takes the comma in front of an item of a flow collection, which the first item has not. -/
def comma (first : Bool) : Rule Unit := do
  unless first do
    match ← peek with
    | .flowEntry => skip
    | _ => refuse

mutual

/-- Reads a node. -/
def node : Nat → Position → Rule Nat
  | 0, _ => refuse
  | fuel + 1, position => do
    match ← peek with
    | .alias name => do
      skip
      named name
    | _ => do
      let p ← properties
      match ← peek, position with
      | .blockEntry, .entry => p.sequence (blockItems fuel true)
      | .scalar plain text, _ => do
        skip
        p.scalar plain text
      | .flowSequenceStart, _ => do
        skip
        p.sequence (flowItems fuel true)
      | .flowMappingStart, _ => do
        skip
        p.mapping (flowEntries fuel true)
      | .blockSequenceStart, .block | .blockSequenceStart, .entry => do
        skip
        p.sequence (blockItems fuel false)
      | .blockMappingStart, .block | .blockMappingStart, .entry => do
        skip
        p.mapping (blockEntries fuel)
      | _, _ => if p.anchor.isSome ∨ p.tag.isSome then p.scalar true "" else refuse

/-- Reads the items of a block sequence. One without indentation has no end mark of its own. -/
def blockItems : Nat → Bool → Rule (List Nat)
  | 0, _ => refuse
  | fuel + 1, indentless => do
    match ← peek with
    | .blockEntry => do
      skip
      let item ← match ← peek, indentless with
        | .blockEntry, _ | .blockEnd, _ | .key, true | .value, true => missing
        | _, _ => node fuel .block
      return item :: (← blockItems fuel indentless)
    | .blockEnd => do
      unless indentless do skip
      return []
    | _ => if indentless then return [] else refuse

/-- Reads the entries of a block mapping. -/
def blockEntries : Nat → Rule (List (Nat × Nat))
  | 0 => refuse
  | fuel + 1 => do
    match ← peek with
    | .key => do
      skip
      let key ← blockPart fuel
      let value ← match ← peek with
        | .value => do
          skip
          blockPart fuel
        | _ => missing
      return (key, value) :: (← blockEntries fuel)
    | .blockEnd => do
      skip
      return []
    | _ => refuse

/-- Reads a key or a value of a block mapping, which may be missing. -/
def blockPart : Nat → Rule Nat
  | 0 => refuse
  | fuel + 1 => do
    match ← peek with
    | .key | .value | .blockEnd => missing
    | _ => node fuel .entry

/-- Reads the items of a flow sequence; a pair among them is a mapping of its own. -/
def flowItems : Nat → Bool → Rule (List Nat)
  | 0, _ => refuse
  | fuel + 1, first => do
    match ← peek with
    | .flowSequenceEnd => do
      skip
      return []
    | _ => do
      comma first
      match ← peek with
      | .flowSequenceEnd => do
        skip
        return []
      | .key => do
        skip
        let item ← Properties.mapping {} do
          let key ← flowPart fuel
          return [(key, ← flowValue fuel)]
        return item :: (← flowItems fuel false)
      | _ => do
        let item ← node fuel .flow
        return item :: (← flowItems fuel false)

/-- Reads the entries of a flow mapping; a lone node among them is a key. -/
def flowEntries : Nat → Bool → Rule (List (Nat × Nat))
  | 0, _ => refuse
  | fuel + 1, first => do
    match ← peek with
    | .flowMappingEnd => do
      skip
      return []
    | _ => do
      comma first
      match ← peek with
      | .flowMappingEnd => do
        skip
        return []
      | .key => do
        skip
        let key ← flowPart fuel
        let value ← flowValue fuel
        return (key, value) :: (← flowEntries fuel false)
      | _ => do
        let key ← node fuel .flow
        let value ← missing
        return (key, value) :: (← flowEntries fuel false)

/-- Reads a key or a value inside a flow collection, which may be missing. -/
def flowPart : Nat → Rule Nat
  | 0 => refuse
  | fuel + 1 => do
    match ← peek with
    | .value | .flowEntry | .flowSequenceEnd | .flowMappingEnd => missing
    | _ => node fuel .flow

/-- Reads the value of an entry inside a flow collection, with its colon. -/
def flowValue : Nat → Rule Nat
  | 0 => refuse
  | fuel + 1 => do
    match ← peek with
    | .value => do
      skip
      flowPart fuel
    | _ => missing

end

/-- Reads a node that stands outside all collections. -/
def topNode : Rule Nat := do node (4 * (← get).tokens.length + 4) .block

/-! ## Documents -/

/-- Reads the directives of a document: at most one version, which is 1, and no handle twice. -/
def directives : Nat → Bool → Handles → Rule Handles
  | 0, _, _ => refuse
  | fuel + 1, versioned, handles => do
    match ← peek with
    | .version major _ =>
      if versioned ∨ major ≠ 1 then refuse
      else do
        skip
        directives fuel true handles
    | .tagHandle handle start =>
      if handles.any (·.1 == handle) then refuse
      else do
        skip
        directives fuel versioned (handles ++ [(handle, start)])
    | .otherDirective => do
      skip
      directives fuel versioned handles
    | _ => return handles ++ defaultHandles

/-- Reads the directives in front of a document and the mark at its start. -/
def documentStart : Rule Unit := do
  let handles ← directives ((← get).tokens.length + 1) false []
  match ← peek with
  | .documentStart => do
    skip
    modify fun s => { s with handles }
  | _ => refuse

/-- Whether a document of its own starts with a token. -/
def startsDocument : Token → Bool
  | .version .. | .tagHandle .. | .otherDirective | .documentStart => true
  | _ => false

/-- Takes marks of the end of a document. -/
def skipDocumentEnds : Nat → Rule Unit
  | 0 => return
  | fuel + 1 => do
    match ← peek with
    | .documentEnd => do
      skip
      skipDocumentEnds fuel
    | _ => return

/-- Reads what is left after the document, which has to be nothing. -/
def onlyDocument : Rule Unit := do
  skipDocumentEnds (← get).tokens.length
  match ← peek with
  | .streamEnd => return
  | _ => do
    documentStart
    refuse

/-- Reads the only document of a text; an empty text has none. -/
def document : Rule (Option Nat) := do
  match ← peek with
  | .streamEnd => return none
  | first => do
    let root ← if startsDocument first then do
        documentStart
        let next ← peek
        if startsDocument next || next == .documentEnd || next == .streamEnd then missing
        else topNode
      else topNode
    onlyDocument
    return some root

end Grammar

/-- The nodes of a text that holds at most one document, and the node of that. -/
def Nodes.ofText (cs : List Char) : Except Fault (Nodes × Option Nat) := do
  let (root, s) ← Grammar.document.run { tokens := Token.ofText cs }
  return (s.nodes, root)

end ServiceFlow.Yaml
