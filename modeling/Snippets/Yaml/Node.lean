import Snippets.Yaml.Schema
import Snippets.Yaml.Token.Stream

/-!
# The nodes of a document

A document is a graph of scalars, sequences and mappings.  A node may have a name, by
which later nodes refer to it, and which a collection has already inside it.  A stream
holds at most one document.
-/

namespace Snippets
namespace Yaml

/-- A node of a document.  Other nodes are given by their numbers. -/
inductive Node where
  /-- A text with a tag. -/
  | scalar (tag : NodeTag) (text : ScalarText)
  /-- Nodes in order. -/
  | sequence (tag : NodeTag) (items : List Nat)
  /-- Nodes under keys, which are nodes too. -/
  | mapping (tag : NodeTag) (entries : List (Nat × Nat))

/-- The nodes of a document by their numbers, in the order in which they start. -/
structure Graph where
  /-- All nodes. -/
  nodes : Array Node
  /-- The number of the node that holds all others. -/
  root : Nat

namespace Node

/-- The tag of a node. -/
def tag : Node → NodeTag
  | scalar tag _ => tag
  | sequence tag _ => tag
  | mapping tag _ => tag

/-- The same node with another tag. -/
def withTag (tag : NodeTag) : Node → Node
  | scalar _ text => scalar tag text
  | sequence _ items => sequence tag items
  | mapping _ entries => mapping tag entries

/-- The greatest depth to which collections may be nested. -/
def deepest : Nat := 480

/-- What is left of the tokens, and what has been learned from those before. -/
structure Rest where
  /-- The tokens that are still to be read. -/
  tokens : List Token
  /-- A number greater than that of the tokens. -/
  bound : Nat
  /-- The starts of tags by their handles. -/
  handles : List (String × String)
  /-- The names given so far, and the numbers of their nodes. -/
  names : List (String × Nat)
  /-- The nodes that have started so far. -/
  nodes : Array Node

/-- A step that reads from tokens. -/
abbrev Step (α : Type) := Rest → Except Failure (α × Rest)

namespace Rest

/-- The next token. -/
def next? (rest : Rest) : Option Token :=
  rest.tokens.head?

/-- What is left after one token. -/
def advance (rest : Rest) : Rest :=
  { rest with tokens := rest.tokens.drop 1 }

/-- Whether the next token is one of some. -/
def isAt (rest : Rest) (tokens : List Token) : Bool :=
  rest.next?.any fun token => tokens.contains token

/-- The failure of a grammar that does not allow the next token. -/
def failure (rest : Rest) : Failure :=
  match rest.next? with
  | some (.failure cause) => cause
  | _ => .malformed

/-- Whether the next token is one of some, provided that the tokens go on. -/
def check (rest : Rest) (tokens : List Token) : Except Failure Bool :=
  match rest.next? with
  | some (.failure cause) => .error cause
  | _ => .ok (rest.isAt tokens)

/-- Gives a node the next number. -/
def add (rest : Rest) (node : Node) : Nat × Rest :=
  (rest.nodes.size, { rest with nodes := rest.nodes.push node })

/-- Puts a node in the place of the one with a number. -/
def fill (rest : Rest) (number : Nat) (node : Node) : Rest :=
  { rest with nodes := rest.nodes.setIfInBounds number node }

end Rest

/-- A plain scalar without characters. -/
def empty : Node :=
  .scalar (Plain.tag "") (.whole "")

/-- The name and the tag before a node. -/
structure Properties where
  /-- The name. -/
  name : Option String
  /-- The text of the tag. -/
  tag : Option String

/-- The text of a tag. -/
def tagText (rest : Rest) : Option String → String → Except Failure String
  | none, text => .ok text
  | some handle, text =>
      match rest.handles.lookup handle with
      | some start => .ok (start ++ text)
      | none => .error .malformed

/-- Reads the name and the tag before a node, in either order. -/
def properties (rest : Rest) : Except Failure (Properties × Rest) := do
  match rest.tokens with
  | .anchor name :: .tag handle text :: tokens =>
      return (⟨some name, some (← tagText rest handle text)⟩, { rest with tokens := tokens })
  | .anchor name :: tokens => return (⟨some name, none⟩, { rest with tokens := tokens })
  | .tag handle text :: .anchor name :: tokens =>
      return (⟨some name, some (← tagText rest handle text)⟩, { rest with tokens := tokens })
  | .tag _ _ :: .failure cause :: _ => throw cause
  | .tag handle text :: tokens =>
      return (⟨none, some (← tagText rest handle text)⟩, { rest with tokens := tokens })
  | _ => return (⟨none, none⟩, rest)

/-- The tag of a text without a tag of its own. -/
def ownTag : ScalarText → NodeTag
  | .whole text => Plain.tag text
  | .broken _ => .text

/-- The tag of a scalar. -/
def scalarTag (tag : Option String) (text : ScalarText) (plain : Bool) : NodeTag :=
  match tag with
  | none => if plain then ownTag text else .text
  | some "!" => ownTag text
  | some tag => NodeTag.ofText tag

/-- The tag of a collection. -/
def collectionTag (tag : Option String) (default : NodeTag) : NodeTag :=
  match tag with
  | none => default
  | some "!" => default
  | some tag => NodeTag.ofText tag

/-- Gives a node the next number and its name, which may be given only once. -/
def start (name : Option String) (node : Node) : Step Nat := fun rest =>
  match name with
  | none => .ok (rest.add node)
  | some name =>
      if (rest.names.lookup name).isSome then .error .malformed
      else
        let (number, rest) := rest.add node
        .ok (number, { rest with names := (name, number) :: rest.names })

/-- Reads a node, or takes an empty one where one of some tokens follows. -/
def orEmpty (tokens : List Token) (node : Step Nat) : Step Nat := fun rest => do
  if rest.tokens.isEmpty then node rest
  else if ← rest.check tokens then return rest.add empty
  else node rest

/-- Reads a sequence whose items the given step reads. -/
def readSequence (properties : Properties) (items : Step (List Nat)) : Step Nat := fun rest => do
  let tag := collectionTag properties.tag .sequence
  let (number, rest) ← start properties.name (.sequence tag []) rest
  let (items, rest) ← items rest
  return (number, rest.fill number (.sequence tag items))

/-- Reads a mapping whose entries the given step reads. -/
def readMapping (properties : Properties) (entries : Step (List (Nat × Nat))) : Step Nat :=
  fun rest => do
    let tag := collectionTag properties.tag .mapping
    let (number, rest) ← start properties.name (.mapping tag []) rest
    let (entries, rest) ← entries rest
    return (number, rest.fill number (.mapping tag entries))

/-- Reads the items of an indented sequence. -/
def blockItems (node : Step Nat) : Nat → List Nat → Step (List Nat)
  | 0, _, _ => .error .malformed
  | fuel + 1, items, rest => do
      match rest.next? with
      | some .blockEntry =>
          let (item, rest) ← orEmpty [.blockEntry, .blockEnd] node rest.advance
          blockItems node fuel (item :: items) rest
      | some .blockEnd => return (items.reverse, rest.advance)
      | _ => throw rest.failure

/-- Reads the items of a sequence that is not indented. -/
def indentlessItems (node : Step Nat) : Nat → List Nat → Step (List Nat)
  | 0, _, _ => .error .malformed
  | fuel + 1, items, rest => do
      match rest.next? with
      | some .blockEntry =>
          let (item, rest) ← orEmpty [.blockEntry, .key, .value, .blockEnd] node rest.advance
          indentlessItems node fuel (item :: items) rest
      | _ => return (items.reverse, rest)

/-- Reads a value after its colon, or takes an empty one where there is no colon. -/
def valueOrEmpty (ends : List Token) (node : Step Nat) : Step Nat := fun rest =>
  match rest.next? with
  | some .value => orEmpty ends node rest.advance
  | some (.failure cause) => .error cause
  | _ => .ok (rest.add empty)

/-- Reads the entries of an indented mapping. -/
def blockEntries (node : Step Nat) :
    Nat → List (Nat × Nat) → Step (List (Nat × Nat))
  | 0, _, _ => .error .malformed
  | fuel + 1, entries, rest => do
      match rest.next? with
      | some .key =>
          let ends := [Token.key, .value, .blockEnd]
          let (key, rest) ← orEmpty ends node rest.advance
          let (value, rest) ← valueOrEmpty ends node rest
          blockEntries node fuel ((key, value) :: entries) rest
      | some .blockEnd => return (entries.reverse, rest.advance)
      | _ => throw rest.failure

/-- Reads a comma between two items. -/
def comma (first : Bool) (rest : Rest) : Except Failure Rest :=
  if first then .ok rest
  else
    match rest.next? with
    | some .flowEntry => .ok rest.advance
    | _ => .error rest.failure

/-- Reads the items of a sequence in square brackets.  A key in it starts a mapping with
one entry. -/
def flowItems (node : Step Nat) : Nat → List Nat → Step (List Nat)
  | 0, _, _ => .error .malformed
  | fuel + 1, items, rest => do
      if rest.next? = some .flowSequenceEnd then return (items.reverse, rest.advance)
      let rest ← comma items.isEmpty rest
      match rest.next? with
      | some .flowSequenceEnd => return (items.reverse, rest.advance)
      | some .key =>
          let (item, rest) ← readMapping ⟨none, none⟩
            (fun rest => do
              let (key, rest) ←
                orEmpty [.value, .flowEntry, .flowSequenceEnd] node rest.advance
              let (value, rest) ← valueOrEmpty [.flowEntry, .flowSequenceEnd] node rest
              return ([(key, value)], rest))
            rest
          flowItems node fuel (item :: items) rest
      | _ =>
          let (item, rest) ← node rest
          flowItems node fuel (item :: items) rest

/-- Reads the entries of a mapping in braces. -/
def flowEntries (node : Step Nat) :
    Nat → List (Nat × Nat) → Step (List (Nat × Nat))
  | 0, _, _ => .error .malformed
  | fuel + 1, entries, rest => do
      if rest.next? = some .flowMappingEnd then return (entries.reverse, rest.advance)
      let rest ← comma entries.isEmpty rest
      match rest.next? with
      | some .flowMappingEnd => return (entries.reverse, rest.advance)
      | some .key =>
          let (key, rest) ← orEmpty [.value, .flowEntry, .flowMappingEnd] node rest.advance
          let (value, rest) ← valueOrEmpty [.flowEntry, .flowMappingEnd] node rest
          flowEntries node fuel ((key, value) :: entries) rest
      | _ =>
          let (key, rest) ← node rest
          let (value, rest) := rest.add empty
          flowEntries node fuel ((key, value) :: entries) rest

/-- Where a node stands. -/
inductive Place where
  /-- Inside brackets or braces. -/
  | flow
  /-- In an indented block or at the root. -/
  | block
  /-- Where a sequence need not be indented. -/
  | entry
  deriving DecidableEq

/-- Reads a node that is nested to less than the given depth. -/
def read : Nat → Place → Step Nat
  | 0, _, _ => .error .tooDeep
  | depth + 1, place, rest => do
      let bound := rest.bound
      if let some (.alias name) := rest.next? then
        match rest.names.lookup name with
        | some number => return (number, rest.advance)
        | none => throw .malformed
      let (properties, rest) ← properties rest
      match rest.next?, place with
      | some .blockEntry, .entry =>
          readSequence properties (indentlessItems (read depth .block) bound []) rest
      | some (.scalar text plain), _ =>
          start properties.name (.scalar (scalarTag properties.tag text plain) text) rest.advance
      | some .flowSequenceStart, _ =>
          readSequence properties (flowItems (read depth .flow) bound []) rest.advance
      | some .flowMappingStart, _ =>
          readMapping properties (flowEntries (read depth .flow) bound []) rest.advance
      | some .blockSequenceStart, .flow => throw .malformed
      | some .blockSequenceStart, _ =>
          readSequence properties (blockItems (read depth .block) bound []) rest.advance
      | some .blockMappingStart, .flow => throw .malformed
      | some .blockMappingStart, _ =>
          readMapping properties (blockEntries (read depth .entry) bound []) rest.advance
      | _, _ =>
          if let some (.failure cause) := rest.next? then throw cause
          if properties.name.isNone && properties.tag.isNone then throw .malformed
          let text := ScalarText.whole ""
          start properties.name (.scalar (scalarTag properties.tag text true) text) rest

end Node

namespace Graph

/-- The handles of tags that need no directive. -/
def standardHandles : List (String × String) :=
  [("!", "!"), ("!!", NodeTag.namespaceText)]

/-- Reads directives.  The version may be given once, and each handle once. -/
def directives (version : Bool) (handles : List (String × String)) :
    List Token → Except Failure (List (String × String) × List Token)
  | .version major :: rest =>
      if version ∨ major ≠ 1 then .error .malformed else directives true handles rest
  | .tagHandle handle start :: rest =>
      if (handles.lookup handle).isSome then .error .malformed
      else directives version ((handle, start) :: handles) rest
  | .otherDirective :: rest => directives version handles rest
  | rest => .ok (handles, rest)

/-- Whether a token is a directive. -/
def isDirective : Token → Bool
  | .version _ => true
  | .tagHandle _ _ => true
  | .otherDirective => true
  | _ => false

/-- Whether a token cannot be the start of a document's content. -/
def endsContent (token : Token) : Bool :=
  isDirective token || token == .documentStart || token == .documentEnd

/-- Reads the root of a document. -/
def content (explicit : Bool) (handles : List (String × String)) (tokens : List Token) :
    Except Failure (Graph × List Token) := do
  let isEmpty := explicit && tokens.head?.all endsContent
  if isEmpty then return (⟨#[Node.empty], 0⟩, tokens)
  let (root, rest) ←
    Node.read Node.deepest .block ⟨tokens, tokens.length + 1, handles, [], #[]⟩
  return (⟨rest.nodes, root⟩, rest.tokens)

/-- Reads what may stand around documents, up to the content of the next one. -/
def explicitStart (tokens : List Token) :
    Except Failure (Option (List (String × String) × List Token)) := do
  let tokens := tokens.dropWhile (· == .documentEnd)
  match tokens with
  | [] => return none
  | _ =>
      let (handles, tokens) ← directives false [] tokens
      match tokens with
      | .documentStart :: tokens => return some (handles ++ standardHandles, tokens)
      | .failure cause :: _ => throw cause
      | _ => throw .malformed

/-- Reads the document of a stream, if there is one. -/
def ofTokens? (tokens : List Token) : Except Failure (Option Graph) := do
  let isImplicit := tokens.head?.any fun token =>
    !(isDirective token || token == .documentStart)
  let start ← if isImplicit then pure (some (standardHandles, tokens)) else explicitStart tokens
  match start with
  | none => return none
  | some (handles, tokens) =>
      let (graph, tokens) ← content (!isImplicit) handles tokens
      match ← explicitStart tokens with
      | none => return some graph
      | some _ => throw .malformed

end Graph
end Yaml
end Snippets
