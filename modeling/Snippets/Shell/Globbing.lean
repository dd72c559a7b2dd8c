import Snippets.Shell.Pattern
import Snippets.Shell.State

/-!
# The files that patterns match

A field with a pattern in it becomes the paths of the files that it matches, in ascending
order.
-/

namespace Snippets
namespace Shell
namespace Globbing

/-- The segments of a pattern between its slashes. -/
def segments (glyphs : List Glyph) : List (List Glyph) :=
  glyphs.foldr
    (fun glyph parts =>
      if glyph.1 = '/' then [] :: parts
      else
        match parts with
        | part :: rest => (glyph :: part) :: rest
        | [] => [[glyph]])
    [[]]

/-- The characters of a pattern without the backslashes that take the meaning from others. -/
def literal : List Glyph → List Char
  | ('\\', false) :: (character, _) :: rest => character :: literal rest
  | (character, _) :: rest => character :: literal rest
  | [] => []

/-- How the patterns of paths are read. -/
def style (state : State) : Pattern.Style :=
  ⟨state.isBash && state.has "extglob", state.has "nocaseglob",
    if state.isBash then .pattern else .plain⟩

/-- The characters of a name. -/
def charactersOf (state : State) (octets : List Char) : List Char :=
  if state.isBash then characters octets else octets

/-- The octets of characters of a pattern. -/
def octetsOf (state : State) (characters : List Char) : List Char :=
  if state.isBash then ofCharacters characters else characters

/-- Whether a name is matched by a segment.  A dot at the start of a name has to be in the
segment. -/
def matchesName (state : State) (segment : List Glyph) (compiled : Pattern.Compiled)
    (name : List Char) : Bool :=
  compiled.isMatch (charactersOf state name) &&
    (name.head? != some '.' || state.has "dotglob" || (segment.head?.map Prod.fst) == some '.')

/-- The paths of a directory and of all directories below it, relative to a path. -/
def below (state : State) : Nat → List Char → List String → List (List Char)
  | 0, _, _ => []
  | fuel + 1, before, names =>
      before :: (state.world.tree.children names).flatMap fun name =>
        let place := names ++ [name]
        let isShown := name.toList.head? != some '.' || state.has "dotglob"
        match state.world.tree.node? place with
        | some (.directory _) =>
            if isShown then below state fuel (before ++ ofText name ++ ['/']) place else []
        | _ => []

/-- The paths that segments match from a place, which the path so far leads to. -/
def paths (state : State) : List Char → List (List Glyph) → List (List Char)
  | _, [] => []
  | before, segment :: rest =>
      let here := if before.isEmpty then ['.'] else before
      let isDeep := segment = [('*', false), ('*', false)] ∧ state.has "globstar" ∧ state.isBash
      if isDeep then
        match state.locate here with
        | .error _ => []
        | .ok names =>
            let places := below state (state.world.tree.nodes.length + 1) before names
            if rest.isEmpty then
              places.flatMap fun place =>
                (if place.isEmpty then [] else [place.dropLast]) ++
                  (matching state place [('*', false)]).filter fun path =>
                    !(state.node? path).any FileNode.isDirectory
            else places.flatMap fun place => paths state place rest
      else
        let found := if Pattern.isActive (style state) segment then matching state before segment
          else
            let path := before ++ octetsOf state (literal segment)
            if path.isEmpty ∨ (state.node? path).isSome then [path]
            else if rest.isEmpty ∧ isLink path then [path]
            else []
        if rest.isEmpty then found
        else found.flatMap fun path => paths state (path ++ ['/']) rest
where
  /-- The paths that go on with a name that a segment matches. -/
  matching (state : State) (before : List Char) (segment : List Glyph) : List (List Char) :=
    match state.locate (if before.isEmpty then ['.'] else before) with
    | .error _ => []
    | .ok names =>
        let compiled := Pattern.compile (style state) segment
        let isDotted := !state.isBash ∧ (segment.head?.map Prod.fst) = some '.'
        let dots := if isDotted then [".", ".."] else []
        let all := (dots ++ state.world.tree.children names).map ofText
        (all.filter (matchesName state segment compiled)).map fun name => before ++ name
  /-- Whether a path leads to a link, which may lead nowhere. -/
  isLink (path : List Char) : Bool :=
    match state.world.tree.placeSelf state.directory (toText path) with
    | .ok names => (state.world.tree.node? names).any FileNode.isLink
    | .error _ => false

/-- What a field becomes. -/
inductive Outcome where
  /-- Words. -/
  | words (words : List (List Char))
  /-- Nothing, which is a failure. -/
  | failed

/-- The words that a field stands for. -/
def expand (state : State) (field : List Glyph) : Outcome :=
  let written := octetsOf state (field.map Prod.fst)
  if !Pattern.isActive (style state) field || state.has "noglob" then .words [written]
  else
    let found := paths state [] (segments field)
    let found := found.filter fun path => !path.isEmpty
    let sorted := (found.map toText).mergeSort fun first second => decide (first ≤ second)
    match sorted with
    | [] =>
        if state.isBash && state.has "failglob" then .failed
        else if state.isBash && state.has "nullglob" then .words []
        else .words [written]
    | sorted => .words (sorted.map ofText)

end Globbing
end Shell
end Snippets
