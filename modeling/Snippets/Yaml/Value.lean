import Snippets.Yaml.Node
import Snippets.Yaml.Scalar

/-!
# The value of a document

Every node has a value under its tag.  Entries of other mappings may be merged into a
mapping, whose own entries then count more.  Nodes are evaluated level by level, from the
root on, so that a collection may be inside itself, and the first failure in this order is
that of the document.
-/

namespace Snippets
namespace Yaml

/-- How far the nodes of a document have been evaluated. -/
structure Evaluation where
  /-- The nodes.  Merging changes the entries of mappings. -/
  nodes : Array Node
  /-- The values found so far, those of collections without what is in them. -/
  values : Array (Option Datum)
  /-- The collections found but not yet looked into, the last first. -/
  pending : List Nat

/-- A step of the evaluation. -/
abbrev Evaluating (α : Type) := StateT Evaluation (Except Failure) α

namespace Evaluation

/-- Nothing has been evaluated. -/
def start (graph : Graph) : Evaluation :=
  ⟨graph.nodes, Array.replicate graph.nodes.size none, []⟩

/-- The node with a number. -/
def node (evaluation : Evaluation) (number : Nat) : Node :=
  evaluation.nodes[number]?.getD Node.empty

/-- Puts a node in the place of the one with a number. -/
def setNode (number : Nat) (node : Node) (evaluation : Evaluation) : Evaluation :=
  { evaluation with nodes := evaluation.nodes.setIfInBounds number node }

/-- The entries of a node, none if it is not a mapping. -/
def entries (evaluation : Evaluation) (number : Nat) : List (Nat × Nat) :=
  match evaluation.node number with
  | .mapping _ entries => entries
  | _ => []

/-- Gives a mapping other entries. -/
def setEntries (number : Nat) (entries : List (Nat × Nat)) (evaluation : Evaluation) :
    Evaluation :=
  evaluation.setNode number (.mapping (evaluation.node number).tag entries)

/-- Whether the key of an entry has a tag. -/
def hasKeyTag (evaluation : Evaluation) (tag : NodeTag) (entry : Nat × Nat) : Bool :=
  (evaluation.node entry.1).tag == tag

/-- Takes note of a value.  That of a collection is still to be filled. -/
def record (number : Nat) (value : Datum) (evaluation : Evaluation) : Evaluation :=
  { evaluation with
    values := evaluation.values.setIfInBounds number (some value)
    pending := if value.isKey then evaluation.pending else number :: evaluation.pending }

end Evaluation

namespace Evaluating

/-- The node with a number. -/
def node (number : Nat) : Evaluating Node :=
  return (← get).node number

/-- Takes the first merge key out of a mapping.  The result is the node under it. -/
def takeMerge (number : Nat) : Evaluating (Option Nat) := do
  let evaluation ← get
  let entries := evaluation.entries number
  match entries.findIdx? (evaluation.hasKeyTag .merge) with
  | none => return none
  | some index =>
      set (evaluation.setEntries number (entries.eraseIdx index))
      return entries[index]?.map Prod.snd

/-- The entries that a node under a merge key stands for, once the given step has merged
what its mappings refer to.  Of several mappings the first counts most, and comes last. -/
def mergedEntries (merge : Nat → Evaluating Unit) (number : Nat) :
    Evaluating (List (Nat × Nat)) := do
  match ← node number with
  | .mapping _ _ =>
      merge number
      return (← get).entries number
  | .sequence _ items =>
      let parts ← items.mapM fun item => do
        match ← node item with
        | .mapping _ _ =>
            merge item
            return (← get).entries item
        | _ => throw .malformed
      return parts.reverse.flatten
  | .scalar _ _ => throw .malformed

/-- Makes the key for the value of a mapping as a whole a text. -/
def settleKey (evaluation : Evaluation) (entry : Nat × Nat) : Evaluation :=
  if evaluation.hasKeyTag .whole entry then
    evaluation.setNode entry.1 ((evaluation.node entry.1).withTag .text)
  else evaluation

/-- The longest chain of references that is followed. -/
def longestChain : Nat := 950

/-- Merges the entries of other mappings into a mapping, in front of its own. -/
def merge : Nat → Nat → Evaluating Unit
  | 0, _ => throw .tooDeep
  | depth + 1, number => do
      let evaluation ← get
      let merges := (evaluation.entries number).filter (evaluation.hasKeyTag .merge)
      let merged ← merges.foldlM
        (fun merged _ => do
          match ← takeMerge number with
          | none => return merged
          | some source => return merged ++ (← mergedEntries (merge depth) source))
        []
      modify fun evaluation =>
        let own := evaluation.entries number
        (own.foldl settleKey evaluation).setEntries number (merged ++ own)

/-- The text of a scalar.  A mapping has the text of its value as a whole. -/
def scalarText : Nat → Nat → Evaluating ScalarText
  | 0, _ => throw .tooDeep
  | depth + 1, number => do
      let evaluation ← get
      match evaluation.node number with
      | .scalar _ text => return text
      | .mapping _ entries =>
          match entries.find? (evaluation.hasKeyTag .whole) with
          | some entry => scalarText depth entry.2
          | none => throw .malformed
      | .sequence _ _ => throw .malformed

/-- The value of a collection with a tag before it is filled. -/
def emptyCollection (tag : NodeTag) : Except Failure Datum :=
  match tag with
  | .sequence | .orderedMapping | .pairs => .ok (.list [])
  | .set => .ok (.set [])
  | .mapping => .ok (.mapping [])
  | _ => .error .malformed

/-- The value of a node, which is found once.  Collections are not filled. -/
def value (number : Nat) : Evaluating Datum := do
  let evaluation ← get
  if let some (some known) := evaluation.values[number]? then return known
  let node := evaluation.node number
  let found ← if Scalar.isScalarTag node.tag then do
      let text ← scalarText longestChain number
      match node.tag, node with
      | .timestamp, .mapping _ _ => throw .mappingMoment
      | tag, _ => monadLift (Scalar.value number tag text)
    else monadLift (emptyCollection node.tag)
  modify (Evaluation.record number found)
  return found

/-- Evaluates the keys and the values of some entries. -/
def evaluateEntries (needsKeys : Bool) (entries : List (Nat × Nat)) : Evaluating Unit :=
  entries.forM fun entry => do
    let key ← value entry.1
    if needsKeys && !key.isKey then throw .malformed
    let _ ← value entry.2

/-- Evaluates the only entry of a mapping. -/
def evaluateSingle (number : Nat) : Evaluating Unit := do
  match ← node number with
  | .mapping _ [entry] => evaluateEntries false [entry]
  | _ => throw .malformed

/-- Evaluates what is directly inside a collection. -/
def fill (number : Nat) : Evaluating Unit := do
  let node ← node number
  match node.tag, node with
  | .orderedMapping, .sequence _ items => items.forM evaluateSingle
  | .pairs, .sequence _ items => items.forM evaluateSingle
  | .sequence, .sequence _ items => items.forM fun item => discard (value item)
  | .mapping, .mapping _ _ | .set, .mapping _ _ => do
      merge longestChain number
      evaluateEntries true ((← get).entries number)
  | _, _ => throw .malformed

/-- Looks into the collections found, and into those found inside them. -/
def fillAll : Nat → Evaluating Unit
  | 0 => return
  | fuel + 1 => do
      let pending := (← get).pending.reverse
      modify fun evaluation => { evaluation with pending := [] }
      pending.forM fill
      if pending.isEmpty then return else fillAll fuel

/-- Evaluates all nodes of a document. -/
def all (graph : Graph) : Evaluating Unit := do
  let _ ← value graph.root
  fillAll (graph.nodes.size + 1)

end Evaluating

namespace Evaluation

/-- The value found for a node. -/
def found (evaluation : Evaluation) (number : Nat) : Datum :=
  (evaluation.values[number]?.getD none).getD .null

/-- The only entry of a mapping as a list of its key and its value. -/
def singleEntry (evaluation : Evaluation) (inner : Nat → Datum) (number : Nat) : Datum :=
  .list ((evaluation.entries number).flatMap fun entry => [inner entry.1, inner entry.2])

/-- The value of a node, given those of the nodes directly inside it. -/
def filled (evaluation : Evaluation) (inner : Nat → Datum) (number : Nat) : Datum :=
  let fields := fun entries : List (Nat × Nat) => entries.foldl
    (fun fields entry => Datum.insertEntry (inner entry.1) (inner entry.2) fields) []
  match evaluation.found number, evaluation.node number with
  | .list _, .sequence .sequence items => .list (items.map inner)
  | .list _, .sequence _ items => .list (items.map (evaluation.singleEntry inner))
  | .mapping _, .mapping _ entries => .mapping (fields entries)
  | .set _, .mapping _ entries => .set ((fields entries).map Prod.fst)
  | value, _ => value

/-- The numbers of the nodes directly inside a node, and of the keys and values of the
entries there. -/
def inside (evaluation : Evaluation) (number : Nat) : List Nat :=
  match evaluation.node number with
  | .scalar _ _ => []
  | .mapping _ entries => entries.flatMap fun entry => [entry.1, entry.2]
  | .sequence _ items =>
      items ++ items.flatMap fun item =>
        (evaluation.entries item).flatMap fun entry => [entry.1, entry.2]

/-- The values of the marked nodes, filled to a depth. -/
def unroll (evaluation : Evaluation) : Nat → Array Bool → Array Datum
  | 0, _ => (Array.range evaluation.nodes.size).map evaluation.found
  | depth + 1, wanted =>
      let marks := (List.range wanted.size).foldl
        (fun marks number =>
          if wanted[number]?.getD false then
            (evaluation.inside number).foldl
              (fun (marks : Array Bool) inner => marks.setIfInBounds inner true) marks
          else marks)
        (Array.replicate wanted.size false)
      let inner := evaluation.unroll depth marks
      (Array.range evaluation.nodes.size).map fun number =>
        if wanted[number]?.getD false then
          evaluation.filled (fun number => inner[number]?.getD .null) number
        else .null

/-- The depth to which a value is filled.  A collection may be inside itself, so that there
has to be an end, and no schema looks as deep as this. -/
def filledDepth : Nat := 12

/-- The value of a document. -/
def toDatum (evaluation : Evaluation) (root : Nat) : Datum :=
  let wanted := (Array.replicate evaluation.nodes.size false).setIfInBounds root true
  (evaluation.unroll filledDepth wanted)[root]?.getD .null

end Evaluation

/-- The value of a stream, null if there is no document in it. -/
def read (characters : List Char) : Except Failure Datum := do
  if !characters.all isAllowed then throw .malformed
  match ← Graph.ofTokens? (Token.ofCharacters characters) with
  | none => return .null
  | some graph =>
      let (_, evaluation) ← (Evaluating.all graph).run (Evaluation.start graph)
      return evaluation.toDatum graph.root

end Yaml
end Snippets
