import Snippets.Shell.Tool.Making

/-!
# Changing rights

Programs that change the rights to files and their owners.
-/

namespace Snippets
namespace Shell
namespace Rights

/-- The users that a machine knows, with their numbers. -/
def users : List (String × Nat) :=
  [("root", 0), ("daemon", 1), ("bin", 2), ("sys", 3), ("sync", 4), ("games", 5), ("man", 6),
   ("lp", 7), ("mail", 8), ("news", 9), ("uucp", 10), ("proxy", 13), ("www-data", 33),
   ("backup", 34), ("list", 38), ("irc", 39), ("nobody", 65534)]

/-- The groups that a machine knows, with their numbers. -/
def groups : List (String × Nat) :=
  [("root", 0), ("daemon", 1), ("bin", 2), ("sys", 3), ("adm", 4), ("tty", 5), ("disk", 6),
   ("lp", 7), ("mail", 8), ("news", 9), ("uucp", 10), ("man", 12), ("proxy", 13), ("kmem", 15),
   ("cdrom", 24), ("sudo", 27), ("audio", 29), ("www-data", 33), ("video", 44), ("games", 60),
   ("users", 100), ("nogroup", 65534), ("staff", 50)]

/-- Whether a text names somebody of a list, or is a number. -/
def isKnown (list : List (String × Nat)) (text : List Char) : Bool :=
  (toNat? text).isSome || (list.lookup (String.ofList text)).isSome

/-- Whether an argument is a mode that starts with a dash. -/
def isModeArgument (argument : List Char) : Bool :=
  match argument with
  | '-' :: letter :: _ => "rwxXstugoa,+=01234567".toList.contains letter
  | _ => false

/-- The mode among arguments, whether it starts with a dash, and the other arguments. -/
def splitMode (arguments : List (List Char)) :
    Option (List Char) × Bool × List (List Char) :=
  let before := arguments.takeWhile (· != "--".toList)
  let dashed := before.filter isModeArgument
  let others := before.filter (!isModeArgument ·) ++ arguments.drop before.length
  if dashed.isEmpty then (none, false, others)
  else (some ([','].intercalate dashed), true, others)

/-- The paths at and below a path, each with the names that lead to it. -/
def below (tree : FileTree) : Nat → List Char → List String → List (List Char × List String)
  | 0, _, _ => []
  | fuel + 1, path, names =>
      match tree.node? names with
      | some (.directory _) =>
          (path, names) :: (tree.children names).flatMap fun name =>
            let inside := names ++ [name]
            match tree.node? inside with
            | some (.link _ _) => []
            | _ => below tree fuel (joinPath path (ofText name)) inside
      | some _ => [(path, names)]
      | none => []

/-- The line that tells of a change of rights. -/
def changeLine (path : List Char) (before after : Nat) : List Char :=
  let shown := fun mode : Nat => Mode.octal 4 mode ++ " (".toList ++ Mode.letters mode ++ [')']
  let words := "mode of ".toList ++ ofText (straight path)
  if before = after then words ++ " retained as ".toList ++ shown after ++ ['\n']
  else
    words ++ " changed from ".toList ++ shown before ++ " to ".toList ++ shown after ++ ['\n']

/-- Changes the rights to one file. -/
def changeOne (invocation : Invocation) (options : Options) (change : Mode.Change)
    (isDashed : Bool) (path : List Char) (names : List String) (outcome : Outcome) : Outcome :=
  match outcome.tree.node? names with
  | none => outcome
  | some node =>
      let before := node.traits.mode
      let isDirectory := node.isDirectory
      let after := change.apply invocation.mask isDirectory before
      let outcome := outcome.modifyTree fun tree =>
        tree.replace names (node.withTraits { node.traits with mode := after })
      let isTold := options.has 'v' || (options.has 'c' && before != after)
      let outcome := if isTold then outcome.say (changeLine path before after) else outcome
      let plain := change.apply 0 isDirectory before
      if isDashed ∧ Mode.without after plain ≠ 0 then
        invocation.refuse (toText path ++ ": new permissions are " ++
          String.ofList (Mode.letters after) ++ ", not " ++
          String.ofList (Mode.letters plain)) outcome
      else outcome

/-- Changes the rights to files. -/
def chmod : Tool := fun invocation =>
  let (dashed?, isDashed, arguments) := splitMode invocation.arguments
  invocation.withOptions ["c changes", "f silent", "f quiet", "v verbose", "R recursive",
      "p-preserve-root", "n-no-preserve-root", "e:reference"] true 1 arguments fun options =>
    let reference := options.value? 'e'
    let (mode?, paths) := match dashed?, reference, options.operands with
      | some mode, _, paths => (some mode, paths)
      | none, some _, paths => (some [], paths)
      | none, none, mode :: paths => (some mode, paths)
      | none, none, [] => (none, [])
    match mode?, paths with
    | none, _ => invocation.misused "missing operand" 1
    | some mode, [] =>
        match reference with
        | some _ => invocation.misused "missing operand" 1
        | none => invocation.misused ("missing operand after " ++ curly mode) 1
    | some mode, paths =>
        let change : Except Outcome Mode.Change :=
          match reference with
          | some path =>
              match invocation.find invocation.tree path true with
              | .ok (_, node) => .ok (.number node.traits.mode true)
              | .error failure =>
                  .error (invocation.fail ("failed to get attributes of " ++ straight path ++
                    ": " ++ lookupMessage failure) 1)
          | none =>
              match Mode.Change.ofText? mode with
              | some change => .ok change
              | none => .error (invocation.misused ("invalid mode: " ++ curly mode) 1)
        match change with
        | .error outcome => outcome
        | .ok change =>
            paths.foldl
              (fun outcome path =>
                let refuse := fun message : String =>
                  if options.has 'f' then outcome.withStatus 1
                  else invocation.refuse message outcome
                match invocation.find outcome.tree path true with
                | .error failure =>
                    let isLink := match invocation.self? outcome.tree path with
                      | some (_, node) => node.isLink
                      | none => false
                    if isLink then
                      refuse ("cannot operate on dangling symlink " ++ straight path)
                    else
                      refuse ("cannot access " ++ straight path ++ ": " ++ lookupMessage failure)
                | .ok (names, _) =>
                    let targets :=
                      if options.has 'R' then
                        below outcome.tree (outcome.tree.nodes.length + 1) path names
                      else [(path, names)]
                    targets.foldl
                      (fun outcome target =>
                        changeOne invocation options change isDashed target.1 target.2 outcome)
                      outcome)
              invocation.outcome

/-- The options of programs that change owners. -/
def ownerForms : List String :=
  ["c changes", "f silent", "f quiet", "v verbose", "R recursive", "h no-dereference",
   "d-dereference", "H ", "L ", "P ", "e:reference", "F:from", "p-preserve-root",
   "n-no-preserve-root"]

/-- Gives files to an owner, which they have already. -/
def giving (what : String) (isOwner : Bool) : Tool :=
  withOptions ownerForms fun invocation options =>
    let (given, paths) := match options.value? 'e', options.operands with
      | some _, paths => (some "root".toList, paths)
      | none, given :: paths => (some given, paths)
      | none, [] => (none, [])
    match given, paths with
    | none, _ => invocation.misused "missing operand" 1
    | some given, [] => invocation.misused ("missing operand after " ++ curly given) 1
    | some given, paths =>
        let user := given.takeWhile fun octet => octet != ':'
        let group := given.drop (user.length + 1)
        let isUser := user.isEmpty || isKnown users user
        let isGroup := group.isEmpty || isKnown groups group
        let wrong : Option String :=
          if !isOwner then
            if isKnown groups given then none else some ("invalid group: " ++ curly given)
          else if !isUser then some ("invalid user: " ++ curly given)
          else if !isGroup then some ("invalid group: " ++ curly given)
          else none
        match wrong with
        | some message => invocation.fail message 1
        | none =>
            paths.foldl
              (fun outcome path =>
                match invocation.find outcome.tree path true with
                | .error failure =>
                    if options.has 'f' then outcome.withStatus 1
                    else
                      invocation.refuse ("cannot access " ++ straight path ++ ": " ++
                        lookupMessage failure) outcome
                | .ok _ =>
                    if options.has 'v' then
                      outcome.say (ofText (what ++ " of " ++ straight path ++
                        " retained as root\n"))
                    else outcome)
              invocation.outcome

/-- Changes the owners of files. -/
def chown : Tool := giving "ownership" true

/-- Changes the groups of files. -/
def chgrp : Tool := giving "group" false

end Rights
end Shell
end Snippets
