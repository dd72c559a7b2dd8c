import Snippets.Shell.Mode
import Snippets.Shell.Tool.Date
import Snippets.Shell.Tool.Options
import Snippets.Shell.Tool.Print

/-!
# Making and removing files

Programs that make files, directories and links, remove them, and change what is known
about them.
-/

namespace Snippets
namespace Shell

/-- Complains about something that cannot be done. -/
def Invocation.refuse (invocation : Invocation) (message : String) (outcome : Outcome) :
    Outcome :=
  outcome.complain (invocation.complaint (ofText message)) 1

/-- A line of the input, and what follows it. -/
def Outcome.takeLine (outcome : Outcome) : List Char × Outcome :=
  let line := outcome.input.takeWhile (· != '\n')
  (line, { outcome with input := outcome.input.drop (line.length + 1) })

/-- Asks a question, to which a line of the input answers. -/
def Invocation.ask (invocation : Invocation) (question : String) (outcome : Outcome) :
    Bool × Outcome :=
  let (line, outcome) :=
    (outcome.write 2 (invocation.name ++ ofText (": " ++ question ++ "? "))).takeLine
  (line.head? = some 'y' || line.head? = some 'Y', outcome)

/-- The node at a path, where a link at the end counts as itself. -/
def Invocation.self? (invocation : Invocation) (tree : FileTree) (path : List Char) :
    Option (List String × FileNode) :=
  (invocation.find tree path false).toOption

/-- A number that no file with several names has. -/
def freshIdentity (tree : FileTree) : Nat :=
  tree.nodes.foldl (fun greatest entry => max greatest entry.2.traits.identity) 0 + 1

/-- The number of names that a file has. -/
def namesOf (tree : FileTree) (node : FileNode) : Nat :=
  if node.traits.identity = 0 then 1
  else
    (tree.nodes.filter fun entry => entry.2.traits.identity = node.traits.identity).length

/-- Puts a file under a further name. -/
def linkNode (names target : List String) (node : FileNode) (tree : FileTree) : FileTree :=
  if node.traits.identity ≠ 0 then tree.put target node
  else
    let node := node.withTraits { node.traits with identity := freshIdentity tree }
    (tree.put names node).put target node

/-- A path below another one. -/
def joinPath (directory name : List Char) : List Char :=
  if directory.getLast? = some '/' then directory ++ name else directory ++ '/' :: name

namespace Making

/-- The mode that an option gives to what is made. -/
def givenMode (invocation : Invocation) (options : Options) (letter : Char) (base : Nat)
    (isDirectory : Bool) : Except String (Option Nat) :=
  match options.value? letter with
  | none => .ok none
  | some text =>
      match Mode.Change.ofText? text with
      | some change => .ok (some (change.apply invocation.mask isDirectory base))
      | none => .error ("invalid mode " ++ curly text)

/-- Makes a directory, and says so where that is wanted. -/
def makeDirectory (invocation : Invocation) (isVerbose : Bool) (mode : Option Nat)
    (path : List Char) (outcome : Outcome) : Outcome × Bool :=
  let refuse := fun message : String =>
    (invocation.refuse ("cannot create directory " ++ curly path ++ ": " ++ message) outcome,
      false)
  match invocation.placeSelf outcome.tree path with
  | .error failure => refuse (lookupMessage failure)
  | .ok names =>
      if (outcome.tree.node? names).isSome then refuse "File exists"
      else
        let node := match mode with
          | some mode => FileNode.directory ⟨mode, invocation.clock, 0⟩
          | none => invocation.newDirectory
        let outcome := outcome.modifyTree fun tree => tree.put names node
        (if isVerbose then
          outcome.say (invocation.name ++ ofText (": created directory " ++ straight path ++ "\n"))
        else outcome, true)

/-- The starts of a path that end before a slash, and the path itself. -/
def stepsOf (path : List Char) : List (List Char) :=
  let path := (path.reverse.dropWhile (· = '/')).reverse
  ((List.range path.length).filterMap fun place : Nat =>
    if 0 < place ∧ path[place]? = some '/' ∧ path[place - 1]? ≠ some '/' then
      some (path.take place)
    else none) ++ [path]

/-- Makes a directory and all directories on the way to it. -/
def makeAll (invocation : Invocation) (isVerbose : Bool) (mode : Option Nat)
    (path : List Char) (outcome : Outcome) : Outcome × Bool :=
  if path.isEmpty then makeDirectory invocation isVerbose mode path outcome
  else
    let steps := stepsOf path
    steps.zipIdx.foldl
      (fun (result : Outcome × Bool) (step, index) =>
        let (outcome, goesOn) := result
        let isLast := index + 1 = steps.length
        if !goesOn ∨ step.isEmpty then result
        else
          match invocation.find outcome.tree step true with
          | .ok (_, .directory _) => result
          | .ok _ =>
              let message := if isLast then "File exists" else "Not a directory"
              (invocation.refuse
                ("cannot create directory " ++ curly step ++ ": " ++ message) outcome, false)
          | .error _ =>
              makeDirectory invocation isVerbose (if isLast then mode else none) step outcome)
      (outcome, true)

/-- Makes directories. -/
def mkdir : Tool :=
  withOptions ["p parents", "v verbose", "m=mode", "Z context"] fun invocation options =>
    if options.operands.isEmpty then invocation.misused "missing operand" 1
    else
      match givenMode invocation options 'm' 0o777 true with
      | .error message => invocation.fail message 1
      | .ok mode =>
          options.operands.foldl
            (fun outcome path =>
              (if options.has 'p' then
                makeAll invocation (options.has 'v') mode path outcome
              else makeDirectory invocation (options.has 'v') mode path outcome).1)
            invocation.outcome

/-- Removes a directory that is empty. -/
def removeDirectory (invocation : Invocation) (options : Options) (isFirst : Bool)
    (path : List Char) (outcome : Outcome) : Outcome × Bool :=
  let outcome :=
    if options.has 'v' then
      outcome.say (invocation.name ++ ofText (": removing directory, " ++ straight path ++ "\n"))
    else outcome
  let refuse := fun message : String =>
    let kind := if isFirst then "" else "directory "
    (invocation.refuse ("failed to remove " ++ kind ++ straight path ++ ": " ++ message) outcome,
      false)
  match invocation.find outcome.tree path false with
  | .error failure => refuse (lookupMessage failure)
  | .ok (names, .directory _) =>
      if (outcome.tree.children names).isEmpty then
        (outcome.modifyTree fun tree => tree.remove names, true)
      else if options.has 'i' then (outcome, false)
      else refuse "Directory not empty"
  | .ok _ => refuse (lookupMessage .notDirectory)

/-- Removes empty directories. -/
def rmdir : Tool :=
  withOptions ["p parents", "v verbose", "i-ignore-fail-on-non-empty"] fun invocation options =>
    if options.operands.isEmpty then invocation.misused "missing operand" 1
    else
      options.operands.foldl
        (fun outcome path =>
          let (outcome, goesOn) := removeDirectory invocation options true path outcome
          if !options.has 'p' then outcome
          else
            ((stepsOf path).reverse.drop 1).foldl
              (fun (result : Outcome × Bool) step =>
                if result.2 then removeDirectory invocation options false step result.1
                else result)
              (outcome, goesOn) |>.1)
        invocation.outcome

/-- The kind of a node, in words. -/
def kindOf (node : FileNode) : String :=
  match node with
  | .directory _ => "directory"
  | .link _ _ => "symbolic link"
  | .file [] _ => "regular empty file"
  | .file _ _ | .unreadable _ _ => "regular file"

/-- Removes a node and, where that is wanted, what is below it. -/
def removeNode (invocation : Invocation) (options : Options) (asks : Bool) :
    Nat → List Char → Outcome → Outcome
  | 0, _, outcome => outcome
  | fuel + 1, path, outcome =>
      let isForced := options.last? "fi" = some 'f'
      let isDeep := options.has 'r' || options.has 'R'
      let refuse := fun (message : String) (outcome : Outcome) =>
        invocation.refuse ("cannot remove " ++ straight path ++ ": " ++ message) outcome
      let removed := fun (names : List String) (kind : String) (outcome : Outcome) =>
        let outcome := outcome.modifyTree fun tree => tree.remove names
        if options.has 'v' then
          outcome.say (ofText ("removed " ++ kind ++ straight path ++ "\n"))
        else outcome
      match invocation.find outcome.tree path false with
      | .error failure =>
          if isForced ∧ (failure = .missing ∨ failure = .notDirectory) then outcome
          else refuse (lookupMessage failure) outcome
      | .ok (names, .directory traits) =>
          let inside := outcome.tree.children names
          if !isDeep ∧ !options.has 'd' then refuse "Is a directory" outcome
          else if !isDeep ∧ !inside.isEmpty then refuse "Directory not empty" outcome
          else
            let (enters, outcome) :=
              if asks ∧ !inside.isEmpty then
                invocation.ask ("descend into directory " ++ straight path) outcome
              else (true, outcome)
            if !enters then outcome
            else
              let outcome := inside.foldl
                (fun outcome name =>
                  removeNode invocation options asks fuel (joinPath path (ofText name)) outcome)
                outcome
              let (goes, outcome) :=
                if asks then
                  invocation.ask ("remove " ++ kindOf (.directory traits) ++ " " ++
                    straight path) outcome
                else (true, outcome)
              if !goes then outcome
              else if (outcome.tree.children names).isEmpty then
                removed names "directory " outcome
              else if asks then outcome
              else refuse "Directory not empty" outcome
      | .ok (names, node) =>
          if path.getLast? = some '/' then refuse (lookupMessage .notDirectory) outcome
          else
            let (goes, outcome) :=
              if asks then
                invocation.ask ("remove " ++ kindOf node ++ " " ++ straight path) outcome
              else (true, outcome)
            if goes then removed names "" outcome else outcome

/-- Removes files. -/
def rm : Tool :=
  withOptions ["r recursive", "R ", "f force", "d dir", "v verbose", "i ", "I ",
      "a!interactive", "p!preserve-root", "n-no-preserve-root", "x-one-file-system"]
    fun invocation options =>
      let isDeep := options.has 'r' || options.has 'R'
      let isForced := options.last? "fi" = some 'f'
      if options.operands.isEmpty then
        if isForced then invocation.outcome else invocation.misused "missing operand" 1
      else
        let asks := options.last? "fiI" = some 'i' ||
          (options.has 'a' && options.value? 'a' != some "never".toList &&
            options.value? 'a' != some "once".toList)
        let (goes, outcome) :=
          if options.last? "fiI" = some 'I' ∧ (3 < options.operands.length ∨ isDeep) then
            let count := options.operands.length
            let words := toString count ++ (if count = 1 then " argument" else " arguments") ++
              (if isDeep then " recursively" else "")
            invocation.ask ("remove " ++ words) invocation.outcome
          else (true, invocation.outcome)
        if !goes then outcome
        else
          options.operands.foldl
            (fun outcome path =>
              let trimmed := (path.reverse.dropWhile (· = '/')).reverse
              let last := Print.lastName path
              if isDeep ∧ (last = ['.'] ∨ last = ['.', '.']) then
                invocation.refuse ("refusing to remove '.' or '..' directory: skipping " ++
                  straight path) outcome
              else if isDeep ∧ trimmed.isEmpty ∧ !path.isEmpty ∧ !options.has 'n' then
                invocation.refuse "use --no-preserve-root to override this failsafe"
                  (invocation.refuse
                    ("it is dangerous to operate recursively on " ++ straight path) outcome)
              else
                removeNode invocation options asks (outcome.tree.nodes.length + 2) path outcome)
            outcome

/-- Removes a single file. -/
def unlink : Tool :=
  withOptions [] fun invocation options =>
    match options.operands with
    | [] => invocation.misused "missing operand" 1
    | [path] =>
        let refuse := fun message : String =>
          invocation.refuse ("cannot unlink " ++ straight path ++ ": " ++ message)
            invocation.outcome
        match invocation.find invocation.tree path false with
        | .error failure => refuse (lookupMessage failure)
        | .ok (_, .directory _) => refuse "Is a directory"
        | .ok (names, _) => invocation.outcome.modifyTree fun tree => tree.remove names
    | _ => invocation.extra 1 options invocation.outcome

/-- Gives a file a further name. -/
def link : Tool :=
  withOptions [] fun invocation options =>
    match options.operands with
    | [] => invocation.misused "missing operand" 1
    | [path] => invocation.misused ("missing operand after " ++ curly path) 1
    | [source, target] =>
        let refuse := fun message : String =>
          invocation.refuse ("cannot create link " ++ straight target ++ " to " ++
            straight source ++ ": " ++ message) invocation.outcome
        match invocation.find invocation.tree source false,
            invocation.placeSelf invocation.tree target with
        | .error failure, _ => refuse (lookupMessage failure)
        | _, .error failure => refuse (lookupMessage failure)
        | .ok (names, node), .ok place =>
            if (invocation.tree.node? place).isSome then refuse "File exists"
            else if node.isDirectory then refuse "Operation not permitted"
            else invocation.outcome.modifyTree (linkNode names place node)
    | _ => invocation.extra 2 options invocation.outcome

/-- The time that options give to files, or the words for what is wrong with them. -/
def timeOf (invocation : Invocation) (options : Options) : Except String Int :=
  match options.value? 'r', options.value? 'd', options.value? 't' with
  | some path, _, _ =>
      match invocation.tree.lookup invocation.directory (toText path) with
      | .ok node => .ok node.traits.modified
      | .error failure =>
          .error ("failed to get attributes of " ++ straight path ++ ": " ++
            lookupMessage failure)
  | none, some text, _ =>
      match Date.moment? invocation text with
      | some moment => .ok moment
      | none => .error ("invalid date format " ++ curly text)
  | none, none, some text =>
      match Date.stamp? invocation text with
      | some moment => .ok moment
      | none => .error ("invalid date format " ++ curly text)
  | none, none, none => .ok invocation.clock

/-- Makes files that are not there, and sets the time of those that are. -/
def touch : Tool :=
  withOptions ["a ", "c no-create", "d=date", "f ", "h no-dereference", "m ", "r=reference",
      "t=", "T:time"]
    fun invocation options =>
      match timeOf invocation options with
      | .error message => invocation.fail message 1
      | .ok moment =>
          if options.operands.isEmpty then invocation.misused "missing file operand" 1
          else
            let isOnlyAccess := options.has 'a' && !options.has 'm'
            options.operands.foldl
              (fun outcome path =>
                let refuse := fun (words message : String) =>
                  invocation.refuse (words ++ " " ++ straight path ++ ": " ++ message) outcome
                if path = ['-'] ∨ (device? path).isSome then outcome
                else
                  match invocation.place outcome.tree path with
                  | .error failure =>
                      if options.has 'c' ∧ failure = .missing then outcome
                      else refuse "cannot touch" (lookupMessage failure)
                  | .ok names =>
                      match outcome.tree.node? names with
                      | some node =>
                          if path.getLast? = some '/' ∧ !node.isDirectory then
                            refuse "setting times of" (lookupMessage .notDirectory)
                          else if isOnlyAccess then outcome
                          else
                            outcome.modifyTree fun tree =>
                              tree.replace names
                                (node.withTraits { node.traits with modified := moment })
                      | none =>
                          if options.has 'c' then outcome
                          else if path.getLast? = some '/' then
                            refuse "setting times of" (lookupMessage .missing)
                          else
                            let node := invocation.newFile []
                            outcome.modifyTree fun tree =>
                              tree.put names
                                (node.withTraits { node.traits with modified := moment }))
              invocation.outcome

/-- The size of a file after a change that a sign and a number stand for. -/
def resized (sign : Option Char) (amount size : Nat) : Except String Nat :=
  match sign with
  | some '+' => .ok (size + amount)
  | some '-' => .ok (size - amount)
  | some '<' => .ok (min size amount)
  | some '>' => .ok (max size amount)
  | some '/' => if amount = 0 then .error "division by zero" else .ok (size / amount * amount)
  | some '%' =>
      if amount = 0 then .error "division by zero"
      else .ok ((size + amount - 1) / amount * amount)
  | _ => .ok amount

/-- Makes files shorter or longer. -/
def truncate : Tool :=
  withOptions ["c no-create", "o io-blocks", "r=reference", "s=size"] fun invocation options =>
    let given := (options.value? 's').map fun text =>
      let text := text.dropWhile (· = ' ')
      match text with
      | first :: rest =>
          if "+-<>/%".toList.contains first then (some first, Size.ofText? rest)
          else (none, Size.ofText? text)
      | [] => (none, none)
    let base := (options.value? 'r').map fun path =>
      (path, invocation.read path)
    match given, base with
    | none, none =>
        invocation.misused "you must specify either ‘--size’ or ‘--reference’" 1
    | some (_, none), _ =>
        invocation.fail ("Invalid number: " ++ curly ((options.value? 's').getD [])) 1
    | some (none, _), some _ =>
        invocation.misused "you must specify a relative ‘--size’ with ‘--reference’" 1
    | _, some (path, .error message) =>
        if options.operands.isEmpty then invocation.misused "missing file operand" 1
        else invocation.fail ("cannot stat " ++ straight path ++ ": " ++ message) 1
    | given, base =>
        if options.operands.isEmpty then invocation.misused "missing file operand" 1
        else
          options.operands.foldl
            (fun outcome path =>
              let refuse := fun message : String =>
                invocation.refuse ("cannot open " ++ straight path ++ " for writing: " ++ message)
                  outcome
              match invocation.place outcome.tree path with
              | .error failure =>
                  if options.has 'c' ∧ failure = .missing then outcome
                  else refuse (lookupMessage failure)
              | .ok names =>
                  let change := fun (content : List UInt8) =>
                    let size := match base with
                      | some (_, .ok text) => text.length
                      | _ => content.length
                    let wanted := match given with
                      | some (sign, some amount) => resized sign amount size
                      | _ => .ok size
                    wanted.map fun wanted =>
                      content.take wanted ++ List.replicate (wanted - content.length) 0
                  match outcome.tree.node? names with
                  | some (.directory _) => refuse "Is a directory"
                  | some (.unreadable failure _) => refuse failure.words
                  | some (.file content traits) =>
                      match change content with
                      | .ok content =>
                          outcome.modifyTree fun tree =>
                            tree.replace names
                              (.file content { traits with modified := invocation.clock })
                      | .error message => invocation.refuse message outcome
                  | _ =>
                      if options.has 'c' then outcome
                      else
                        match change [] with
                        | .ok content =>
                            outcome.modifyTree fun tree =>
                              tree.put names (invocation.newFile (ofBytes content))
                        | .error message => invocation.refuse message outcome)
            invocation.outcome

/-- A name for a temporary file: the letters at the end that stand for any others are filled
in. -/
def filled (count number : Nat) : List Char :=
  let letters := "abcdefghijklmnopqrstuvwxyzABCDEFGHIJKLMNOPQRSTUVWXYZ0123456789".toList
  ((List.range count).foldl
    (fun (state : Nat × List Char) _ =>
      let next := (state.1 * 6364136223846793005 + 1442695040888963407) % 0x10000000000000000
      (next, (letters[next / 0x100000000 % letters.length]?.getD 'x') :: state.2))
    (number, [])).2

/-- Makes a temporary file or directory and prints its path. -/
def mktemp : Tool :=
  withOptions ["d directory", "u dry-run", "q quiet", "p?tmpdir", "t ", "s:suffix", "V "]
    fun invocation options =>
      if 1 < options.operands.length then invocation.misused "too many templates" 1
      else
        let fail := fun message : String =>
          if options.has 'q' then invocation.exit 1 else invocation.fail message 1
        let template := options.operands.head?.getD "tmp.XXXXXXXXXX".toList
        let (stem, suffix) := match options.value? 's' with
          | some suffix => (template, suffix)
          | none =>
              let suffix := (template.reverse.takeWhile (· != 'X')).reverse
              (template.take (template.length - suffix.length), suffix)
        let count := (stem.reverse.takeWhile (· = 'X')).length
        if count < 3 then fail ("too few X's in template " ++ curly (template))
        else if suffix.contains '/' then
          fail ("invalid suffix " ++ curly suffix ++ ", contains directory separator")
        else
          let base := stem.take (stem.length - count)
          let home := (invocation.valueOf? "TMPDIR").getD "/tmp".toList
          let home := if home.isEmpty then "/tmp".toList else home
          let directory :=
            match options.value? 'p' with
            | some [] => some home
            | some path => some path
            | none => if options.operands.isEmpty ∨ options.has 't' then some home else none
          let shown := match directory with
            | some path => joinPath path (base ++ List.replicate count 'X' ++ suffix)
            | none => base ++ List.replicate count 'X' ++ suffix
          let path := match directory with
            | some path =>
                joinPath path (base ++ filled count (invocation.clock + invocation.process) ++
                  suffix)
            | none => base ++ filled count (invocation.clock + invocation.process) ++ suffix
          let kind := if options.has 'd' then "directory" else "file"
          match invocation.placeSelf invocation.tree path with
          | .error failure =>
              if options.has 'u' then invocation.print (path ++ ['\n'])
              else
                fail ("failed to create " ++ kind ++ " via template " ++ curly shown ++ ": " ++
                  lookupMessage failure)
          | .ok names =>
              let node :=
                if options.has 'd' then FileNode.directory ⟨0o700, invocation.clock, 0⟩
                else .file [] ⟨0o600, invocation.clock, 0⟩
              let outcome := invocation.print (path ++ ['\n'])
              if options.has 'u' then outcome
              else outcome.modifyTree fun tree => tree.put names node

end Making
end Shell
end Snippets
