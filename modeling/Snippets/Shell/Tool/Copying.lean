import Snippets.Shell.Tool.Making

/-!
# Copying, moving and linking files

Each of these programs takes sources to a target: into it if it is a directory, and in its
place otherwise.
-/

namespace Snippets
namespace Shell
namespace Copying

/-- Where sources go. -/
structure Errand where
  /-- The sources. -/
  sources : List (List Char)
  /-- The target. -/
  target : List Char
  /-- Whether the sources go into the target. -/
  isInside : Bool

/-- Whether a path leads to a directory. -/
def isDirectory (invocation : Invocation) (path : List Char) : Bool :=
  match invocation.find invocation.tree path true with
  | .ok (_, node) => node.isDirectory
  | .error _ => false

/-- The words for a path that should lead to a directory. -/
def whyNot (invocation : Invocation) (path : List Char) : String :=
  match invocation.find invocation.tree path true with
  | .ok _ => lookupMessage .notDirectory
  | .error failure => lookupMessage failure

/-- Where the operands of a program go, or the outcome if they go nowhere. -/
def errand (invocation : Invocation) (options : Options) : Except Outcome Errand :=
  let operands := options.operands
  match options.value? 't' with
  | some target =>
      if operands.isEmpty then .error (invocation.misused "missing file operand" 1)
      else if isDirectory invocation target then .ok ⟨operands, target, true⟩
      else
        .error (invocation.fail ("target directory " ++ straight target ++ ": " ++
          whyNot invocation target) 1)
  | none =>
      match operands.reverse with
      | [] => .error (invocation.misused "missing file operand" 1)
      | [only] =>
          .error (invocation.misused ("missing destination file operand after " ++
            straight only) 1)
      | target :: sources =>
          let sources := sources.reverse
          if options.has 'T' then
            match operands[2]? with
            | some extra => .error (invocation.misused ("extra operand " ++ straight extra) 1)
            | none => .ok ⟨sources, target, false⟩
          else if isDirectory invocation target then .ok ⟨sources, target, true⟩
          else if 1 < sources.length then
            .error (invocation.fail ("target " ++ straight target ++ ": " ++
              whyNot invocation target) 1)
          else .ok ⟨sources, target, false⟩

/-- The path to which a source goes. -/
def Errand.pathFor (errand : Errand) (source : List Char) : List Char :=
  if errand.isInside then
    let name := Print.lastName source
    joinPath errand.target (if name = ['.', '.'] then ['.'] else name)
  else errand.target

/-- The name under which a file is kept before it is replaced, if it is. -/
def backupOf (invocation : Invocation) (options : Options) (tree : FileTree)
    (path : List Char) : Option (List Char) :=
  if !options.has 'b' ∧ !options.has 'B' ∧ !options.has 'S' then none
  else
    let control := match options.value? 'B' with
      | some value => if value.isEmpty then "existing".toList else value
      | none => (invocation.valueOf? "VERSION_CONTROL").getD "existing".toList
    let suffix := match options.value? 'S' with
      | some suffix => suffix
      | none => (invocation.valueOf? "SIMPLE_BACKUP_SUFFIX").getD ['~']
    let numbered := fun number : Nat => path ++ ".~".toList ++ ofNat number ++ ['~']
    let isThere := fun path : List Char => (invocation.self? tree path).isSome
    let count := ((List.range (tree.nodes.length + 1)).find? fun number : Nat =>
      !isThere (numbered (number + 1))).getD 0
    match String.ofList control with
    | "none" | "off" => none
    | "numbered" | "t" => some (numbered (count + 1))
    | "simple" | "never" => some (path ++ suffix)
    | _ => some (if count = 0 then path ++ suffix else numbered (count + 1))

/-- Keeps a file under another name before it is replaced, and says under which one. -/
def keep (invocation : Invocation) (options : Options) (path : List Char)
    (names : List String) (outcome : Outcome) : String × Outcome :=
  match backupOf invocation options outcome.tree path with
  | none => ("", outcome)
  | some backup =>
      match invocation.placeSelf outcome.tree backup with
      | .error _ => ("", outcome)
      | .ok place =>
          (" (backup: " ++ straight backup ++ ")",
            outcome.modifyTree fun tree => tree.move names place)

/-- What becomes of a target that is there. -/
inductive Verdict where
  /-- It is replaced. -/
  | replaced
  /-- It stays, and that is no failure. -/
  | kept
  /-- It stays, because that was the answer to a question. -/
  | refused
  deriving DecidableEq

/-- What becomes of a target that is there. -/
def verdict (invocation : Invocation) (options : Options) (question : String)
    (source target : FileNode) (outcome : Outcome) : Verdict × Outcome :=
  let isOlder := target.traits.modified < source.traits.modified
  let update := match options.value? 'u' with
    | none => "all"
    | some value => if value.isEmpty then "older" else String.ofList value
  match options.last? "nif" with
  | some 'n' => (.kept, outcome)
  | mode =>
      if update = "older" ∧ !isOlder then (.kept, outcome)
      else if update = "none" then (.kept, outcome)
      else if mode = some 'i' then
        let (goes, outcome) := invocation.ask question outcome
        (if goes then .replaced else .refused, outcome)
      else (.replaced, outcome)

/-- Whether two nodes under some names are the same file. -/
def isSame (first second : List String × FileNode) : Bool :=
  first.1 = second.1 || (first.2.traits.identity ≠ 0 &&
    first.2.traits.identity = second.2.traits.identity)

/-- Whether links are copied as links, at the start and below it. -/
def keepsLinks (options : Options) (isFirst : Bool) : Bool :=
  match options.last? "LPHda" with
  | some 'L' => false
  | some 'H' => !isFirst
  | some _ => true
  | none => options.has 'r' || options.has 'R'

/-- Whether the rights and times of files are kept. -/
def keepsTraits (options : Options) : Bool :=
  options.has 'p' || options.has 'a' ||
    (options.valuesOf 'q').any fun value =>
      let parts := splitAt ',' value
      parts.any fun part => ["all", "timestamps", "mode"].contains (String.ofList part)

/-- The traits of a copy that is new. -/
def traitsOfCopy (invocation : Invocation) (options : Options) (source : NodeTraits) :
    NodeTraits :=
  if keepsTraits options then { source with identity := 0 }
  else ⟨Mode.without (source.mode &&& 0o777) invocation.mask, invocation.clock, 0⟩

/-- The line that tells of a copy. -/
def told (options : Options) (words : String) (outcome : Outcome) : Outcome :=
  if options.has 'v' then outcome.say (ofText (words ++ "\n")) else outcome

/-- Copies a node to a path.  The paths that have been made before are given, and those that
are made are added. -/
def copy (invocation : Invocation) (options : Options) :
    Nat → Bool → List Char → List Char → List (List String) → Outcome →
      List (List String) × Outcome
  | 0, _, _, _, made, outcome => (made, outcome)
  | fuel + 1, isFirst, source, target, made, outcome =>
      let refuse := fun (message : String) (outcome : Outcome) =>
        (made, invocation.refuse message outcome)
      let follows := !keepsLinks options isFirst
      let found : Except LookupFailure (List String × FileNode) :=
        if isFirst ∧ source.getLast? ≠ some '/' then
          match device? source, invocation.read source with
          | some _, .ok content =>
              .ok (["dev"], .file (toBytes content) ⟨0o644, invocation.clock, 0⟩)
          | _, _ => invocation.find outcome.tree source follows
        else
          match invocation.find outcome.tree source follows with
          | .ok (names, .file content traits) =>
              if source.getLast? = some '/' then .error .notDirectory
              else .ok (names, .file content traits)
          | answer => answer
      match found with
      | .error failure =>
          refuse ("cannot stat " ++ straight source ++ ": " ++ lookupMessage failure) outcome
      | .ok (from_, node) =>
          let isDeep := options.has 'r' || options.has 'R' || options.has 'a'
          let arrow := straight source ++ " -> " ++ straight target
          let kind := match node with
            | .directory _ => "directory"
            | .link _ _ => "symbolic link"
            | .file _ _ | .unreadable _ _ => "regular file"
          if node.isDirectory ∧ !isDeep then
            refuse ("-r not specified; omitting directory " ++ straight source) outcome
          else
            match invocation.placeSelf outcome.tree target with
            | .error .notDirectory =>
                refuse ("cannot stat " ++ straight target ++ ": " ++
                  lookupMessage .notDirectory) outcome
            | .error failure =>
                refuse ("cannot create " ++ kind ++ " " ++ straight target ++ ": " ++
                  lookupMessage failure) outcome
            | .ok self =>
                -- A link at the target is followed unless a directory or a link takes its place.
                let place := match invocation.place outcome.tree target with
                  | .ok place => if node.isLink then self else place
                  | .error _ => self
                match node with
                | .directory traits =>
                    if from_.isPrefixOf place ∧ place ≠ from_ then
                      refuse ("cannot copy a directory, " ++ straight source ++
                        ", into itself, " ++ straight target) outcome
                    else
                      let inside := outcome.tree.children from_
                      let copyInside := fun outcome : Outcome =>
                        inside.foldl
                          (fun (result : List (List String) × Outcome) name =>
                            copy invocation options fuel false (joinPath source (ofText name))
                              (joinPath target (ofText name)) result.1 result.2)
                          (made, outcome)
                      match outcome.tree.node? place with
                      | some (.directory _) =>
                          if place = from_ then
                            refuse (straight source ++ " and " ++ straight target ++
                              " are the same file") outcome
                          else copyInside outcome
                      | some _ =>
                          refuse ("cannot overwrite non-directory " ++ straight target ++
                            " with directory " ++ straight source) outcome
                      | none =>
                          let outcome := told options arrow
                            (outcome.modifyTree fun tree =>
                              tree.put place
                                (.directory (traitsOfCopy invocation options traits)))
                          copyInside outcome
                | node =>
                    let makes := fun (note : String) (tree : FileTree → FileTree)
                        (outcome : Outcome) =>
                      (place :: made, (told options (arrow ++ note) outcome).modifyTree tree)
                    let write := fun (note : String) (outcome : Outcome) =>
                      if options.has 's' then
                        if !source.head?.any (· = '/') ∧ target.contains '/' then
                          (made, invocation.refuse (toText target ++ ": can make relative " ++
                            "symbolic links only in current directory") outcome)
                        else
                          makes note
                            (fun tree => tree.put self
                              (.link (toText source) ⟨0o777, invocation.clock, 0⟩)) outcome
                      else if options.has 'l' then
                        makes note (fun tree => linkNode from_ place node (tree.remove place))
                          outcome
                      else
                        match node with
                        | .unreadable failure _ =>
                            refuse ("cannot open " ++ straight source ++ " for reading: " ++
                              failure.words) outcome
                        | node =>
                            makes note
                              (fun tree =>
                                match node, tree.node? place with
                                | .file content traits, some (.file _ before) =>
                                    let after := if keepsTraits options then
                                        { traits with identity := before.identity }
                                      else { before with modified := invocation.clock }
                                    tree.replace place (.file content after)
                                | node, _ =>
                                    tree.put place (node.withTraits
                                      (traitsOfCopy invocation options node.traits)))
                              outcome
                    match outcome.tree.node? self, outcome.tree.node? place with
                    | none, _ =>
                        if target.getLast? = some '/' then
                          refuse ("cannot create " ++ kind ++ " " ++ straight target ++ ": " ++
                            lookupMessage .notDirectory) outcome
                        else write "" outcome
                    | some (.link _ _), none =>
                        refuse ("not writing through dangling symlink " ++ straight target) outcome
                    | _, none => write "" outcome
                    | some there, some before =>
                        if before.isDirectory then
                          refuse ("cannot overwrite directory " ++ straight target ++
                            " with non-directory " ++ straight source) outcome
                        else if target.getLast? = some '/' then
                          refuse ("cannot stat " ++ straight target ++ ": " ++
                            lookupMessage .notDirectory) outcome
                        else if made.contains place then
                          refuse ("will not overwrite just-created " ++ straight target ++
                            " with " ++ straight source) outcome
                        else if isSame (from_, node) (place, before) ∧
                            (backupOf invocation options outcome.tree target).isNone then
                          if options.has 'l' ∧ from_ ≠ place then (made, outcome)
                          else
                            refuse (straight source ++ " and " ++ straight target ++
                              " are the same file") outcome
                        else
                          let question := "overwrite " ++ straight target
                          match verdict invocation options question node before outcome with
                          | (.kept, outcome) => (made, outcome)
                          | (.refused, outcome) => (made, outcome.withStatus 1)
                          | (.replaced, outcome) =>
                              let (note, outcome) :=
                                keep invocation options target self outcome
                              if note ≠ "" then write note outcome
                              else if options.has 'e' then
                                write note (told options ("removed " ++ straight target)
                                  (outcome.modifyTree fun tree => tree.remove self))
                              else if (options.has 's' ∨ options.has 'l') ∧
                                  !options.has 'f' then
                                let words := if options.has 's' then "symbolic link " else
                                  "hard link "
                                (made, invocation.refuse ("cannot create " ++ words ++
                                  straight target ++ (if options.has 's' then "" else
                                    " to " ++ straight source) ++ ": File exists") outcome)
                              else if there.isLink ∧ node.isLink then
                                write note (outcome.modifyTree fun tree => tree.remove self)
                              else write note outcome

/-- The options of programs that replace files. -/
def replacingForms : List String :=
  ["b ", "B!backup", "f force", "i interactive", "n no-clobber", "S=suffix",
   "t=target-directory", "T no-target-directory", "u?update", "v verbose",
   "x-strip-trailing-slashes"]

/-- Copies files. -/
def cp : Tool :=
  withOptions (replacingForms ++ ["a archive", "d ", "H ", "l link", "L dereference",
      "P no-dereference", "p ", "q!preserve", "r recursive", "R ", "s symbolic-link",
      "e-remove-destination", "D-debug", "g-parents", "c!no-preserve", "A-attributes-only",
      "y!reflink", "z:sparse", "X one-file-system", "x one-file-system", "Z context"])
    fun invocation options =>
      match errand invocation options with
      | .error outcome => outcome
      | .ok errand =>
          (errand.sources.foldl
            (fun (result : List (List String) × Outcome) source =>
              let outcome := result.2
              let target :=
                if options.has 'g' then joinPath errand.target source else errand.pathFor source
              let outcome :=
                if options.has 'g' then
                  (Making.makeAll { invocation with name := [] } false none
                    (Print.parentPath target) outcome).1
                else outcome
              copy invocation options (outcome.tree.nodes.length + 2) true source target
                result.1 outcome)
            ([], invocation.outcome)).2

/-- Moves a node to a path. -/
def moveOne (invocation : Invocation) (options : Options) (source target : List Char)
    (outcome : Outcome) : Outcome :=
  let refuse := fun (message : String) (outcome : Outcome) => invocation.refuse message outcome
  match invocation.find outcome.tree source false with
  | .error failure =>
      refuse ("cannot stat " ++ straight source ++ ": " ++ lookupMessage failure) outcome
  | .ok (from_, node) =>
      let words := "cannot move " ++ straight source ++ " to " ++ straight target ++ ": "
      if source.getLast? = some '/' ∧ !node.isDirectory then
        refuse ("cannot stat " ++ straight source ++ ": " ++ lookupMessage .notDirectory) outcome
      else
        match invocation.placeSelf outcome.tree target with
        | .error failure => refuse (words ++ lookupMessage failure) outcome
        | .ok place =>
            let move := fun (note : String) (outcome : Outcome) =>
              (told options ("renamed " ++ straight source ++ " -> " ++ straight target ++ note)
                outcome).modifyTree fun tree => tree.move from_ place
            if node.isDirectory ∧ from_.isPrefixOf place ∧ (from_ ≠ place ∨ !options.has 'T') then
              if from_ = place then
                refuse (straight source ++ " and " ++ straight target ++ " are the same file")
                  outcome
              else
                refuse ("cannot move " ++ straight source ++ " to a subdirectory of itself, " ++
                  straight target) outcome
            else
              match outcome.tree.node? place with
              | none =>
                  if target.getLast? = some '/' ∧ !node.isDirectory then
                    refuse (words ++ lookupMessage .notDirectory) outcome
                  else move "" outcome
              | some before =>
                  if from_ = place then
                    refuse (straight source ++ " and " ++ straight target ++
                      " are the same file") outcome
                  else if target.getLast? = some '/' ∧ !before.isDirectory then
                    refuse (words ++ lookupMessage .notDirectory) outcome
                  else if node.isDirectory ∧ !before.isDirectory then
                    refuse ("cannot overwrite non-directory " ++ straight target ++
                      " with directory " ++ straight source) outcome
                  else if !node.isDirectory ∧ before.isDirectory then
                    refuse ("cannot overwrite directory " ++ straight target ++
                      " with non-directory " ++ straight source) outcome
                  else
                    let question := "overwrite " ++ straight target
                    match verdict invocation options question node before outcome with
                    | (.kept, outcome) => outcome
                    | (.refused, outcome) => outcome.withStatus 1
                    | (.replaced, outcome) =>
                        let (note, outcome) := keep invocation options target place outcome
                        if note = "" ∧ before.isDirectory ∧
                            !(outcome.tree.children place).isEmpty then
                          refuse (words ++ "Directory not empty") outcome
                        else if note = "" ∧ isSame (from_, node) (place, before) then
                          outcome.modifyTree fun tree => tree.remove from_
                        else move note outcome

/-- Moves files and directories. -/
def mv : Tool :=
  withOptions (replacingForms ++ ["D-debug", "e-no-copy", "Z context"])
    fun invocation options =>
      match errand invocation options with
      | .error outcome => outcome
      | .ok errand =>
          errand.sources.foldl
            (fun outcome source =>
              let source := if options.has 'x' then
                  (source.reverse.dropWhile (· = '/')).reverse else source
              let target := errand.pathFor source
              moveOne invocation options source target outcome)
            invocation.outcome

/-- The path that leads from a directory to other names. -/
def relativePath (directory names : List String) : String :=
  let common := ((List.zip directory names).takeWhile fun pair => pair.1 = pair.2).length
  let parts := List.replicate (directory.length - common) ".." ++ names.drop common
  if parts.isEmpty then "." else "/".intercalate parts

/-- Makes a link under a path. -/
def linkOne (invocation : Invocation) (options : Options) (source target : List Char)
    (outcome : Outcome) : Outcome :=
  let isSymbolic := options.has 's'
  let kind := if isSymbolic then "symbolic link " else "hard link "
  let refuse := fun (message : String) (outcome : Outcome) => invocation.refuse message outcome
  let found := invocation.find outcome.tree source (options.last? "LP" = some 'L')
  match isSymbolic, found with
  | false, .error failure =>
      refuse ("failed to access " ++ straight source ++ ": " ++ lookupMessage failure) outcome
  | false, .ok (_, .directory _) =>
      refuse (toText source ++ ": hard link not allowed for directory") outcome
  | _, found =>
      match invocation.placeSelf outcome.tree target with
      | .error failure =>
          let arrow := if isSymbolic then "" else " => " ++ straight source
          refuse ("failed to create " ++ kind ++ straight target ++ arrow ++ ": " ++
            lookupMessage failure) outcome
      | .ok place =>
          let held := if isSymbolic ∧ options.has 'r' then
              match invocation.place outcome.tree source with
              | .ok names => relativePath place.dropLast names
              | .error _ => toText source
            else toText source
          let make := fun (note : String) (outcome : Outcome) =>
            let sign := if isSymbolic then " -> " else " => "
            let outcome := told options (straight target ++ sign ++
              (if isSymbolic then straight (ofText held) else straight source) ++ note) outcome
            outcome.modifyTree fun tree =>
              match isSymbolic, found with
              | false, .ok (names, node) => linkNode names place node tree
              | _, _ => tree.put place (.link held ⟨0o777, invocation.clock, 0⟩)
          if isSymbolic ∧ source.isEmpty then
            refuse ("failed to create symbolic link " ++ straight target ++ " -> '': " ++
              lookupMessage .missing) outcome
          else
            match outcome.tree.node? place with
            | none => make "" outcome
            | some before =>
                let isSelf := match found with
                  | .ok (names, node) => !isSymbolic && isSame (names, node) (place, before)
                  | .error _ => false
                if before.isDirectory then
                  refuse (if options.has 'f' then
                    toText target ++ ": cannot overwrite directory"
                    else "failed to create " ++ kind ++ straight target ++ ": File exists") outcome
                else if options.last? "fi" = some 'i' then
                  let (goes, outcome) :=
                    invocation.ask ("replace " ++ straight target) outcome
                  if goes then make "" (outcome.modifyTree fun tree => tree.remove place)
                  else outcome.withStatus 1
                else if options.has 'f' then
                  let isSameName := match found with
                    | .ok (names, _) => !isSymbolic && names = place
                    | .error _ => false
                  if isSameName then
                    refuse (straight source ++ " and " ++ straight target ++
                      " are the same file") outcome
                  else if isSelf then outcome
                  else
                    let (note, outcome) := keep invocation options target place outcome
                    make note (outcome.modifyTree fun tree => tree.remove place)
                else
                  let (note, outcome) := keep invocation options target place outcome
                  if note ≠ "" then make note outcome
                  else
                    refuse ("failed to create " ++ kind ++ straight target ++
                      ": File exists") outcome

/-- Makes links. -/
def ln : Tool :=
  withOptions ["b ", "B!backup", "d directory", "F ", "f force", "i interactive", "L logical",
      "n no-dereference", "P physical", "r relative", "s symbolic", "S=suffix",
      "t=target-directory", "T no-target-directory", "v verbose"] fun invocation options =>
    let isTarget := fun path : List Char =>
      if options.has 'n' then
        match invocation.self? invocation.tree path with
        | some (_, node) => node.isDirectory
        | none => false
      else isDirectory invocation path
    let run := fun errand : Errand =>
      errand.sources.foldl
        (fun outcome source =>
          linkOne invocation options source (errand.pathFor source) outcome)
        invocation.outcome
    match options.value? 't', options.operands with
    | _, [] => invocation.misused "missing file operand" 1
    | some target, sources =>
        if isDirectory invocation target then run ⟨sources, target, true⟩
        else invocation.fail ("target directory " ++ straight target ++ ": " ++
          whyNot invocation target) 1
    | none, [only] =>
        if options.has 'T' then
          invocation.misused ("missing destination file operand after " ++ straight only) 1
        else run ⟨[only], ['.'], true⟩
    | none, [source, target] =>
        run ⟨[source], target, !options.has 'T' && isTarget target⟩
    | none, operands =>
        let target := operands.getLast?.getD []
        if options.has 'T' then
          invocation.misused ("extra operand " ++ straight ((operands[2]?).getD [])) 1
        else if isTarget target then run ⟨operands.dropLast, target, true⟩
        else invocation.fail ("target " ++ straight target ++ ": " ++
          whyNot invocation target) 1

/-- Copies files and sets their rights, or makes directories. -/
def install : Tool :=
  withOptions ["b ", "B!backup", "C compare", "c ", "d directory", "D ", "g=group", "m=mode",
      "o=owner", "p preserve-timestamps", "s strip", "S=suffix", "t=target-directory",
      "T no-target-directory", "v verbose"] fun invocation options =>
    match Making.givenMode invocation options 'm' 0 false with
    | .error message => invocation.fail message 1
    | .ok mode =>
        let mode := mode.getD 0o755
        if options.has 'd' then
          if options.operands.isEmpty then invocation.misused "missing file operand" 1
          else
            options.operands.foldl
              (fun outcome path =>
                let before := outcome.tree
                let (outcome, _) := Making.makeAll
                  { invocation with mask := 0o022, name := "install".toList } false (some mode)
                  path outcome
                if options.has 'v' then
                  (Making.stepsOf path).foldl
                    (fun outcome step =>
                      if (invocation.find before step true).toOption.isSome then outcome
                      else outcome.say (invocation.name ++
                        ofText (": creating directory " ++ straight step ++ "\n")))
                    outcome
                else outcome)
              invocation.outcome
        else
          let prepared := match options.has 'D', options.value? 't', options.operands with
            | true, some target, _ =>
                (Making.makeAll invocation false none target invocation.outcome).1
            | true, none, [_, target] =>
                (Making.makeAll invocation false none (Print.parentPath target)
                  invocation.outcome).1
            | _, _, _ => invocation.outcome
          let invocation := { invocation with tree := prepared.tree }
          match errand invocation options with
          | .error outcome => outcome
          | .ok errand =>
              errand.sources.foldl
                (fun outcome source =>
                  let target := errand.pathFor source
                  let inner : Options :=
                    ⟨options.given.filter fun entry => ['b', 'B', 'S', 'v', 'p'].contains entry.1,
                      []⟩
                  match invocation.find outcome.tree source true with
                  | .ok (_, .directory _) =>
                      invocation.refuse ("omitting directory " ++ straight source) outcome
                  | _ =>
                      let status := outcome.status
                      let (made, outcome) := copy invocation inner 2 true source target []
                        (outcome.withStatus 0)
                      let outcome := made.foldl
                        (fun outcome names =>
                          outcome.modifyTree fun tree =>
                            match tree.node? names with
                            | some node =>
                                tree.replace names
                                  (node.withTraits { node.traits with mode := mode })
                            | none => tree)
                        outcome
                      outcome.withStatus (max status outcome.status))
                { invocation.outcome with tree := prepared.tree }

end Copying
end Shell
end Snippets
