import Snippets.Shell.Builtin.Basic
import Snippets.Shell.Printing

/-!
# Declaring variables, functions and aliases

Variables are given values and traits, made the running function's own, and removed.
-/

namespace Snippets
namespace Shell
namespace Builtin

/-- What a declaration gives to a name. -/
inductive Gift where
  /-- Nothing. -/
  | nothing
  /-- A text, perhaps for the element of a subscript, perhaps after what is there. -/
  | text (subscript : Option (List Char)) (append : Bool) (text : List Char)
  /-- A list of values, perhaps after those that are there. -/
  | list (append : Bool) (elements : List Element)

/-- The name that an operand declares, and what it is given. -/
def giftOf (operand : Operand) : List Char × Gift :=
  match operand with
  | .value name subscript append text => (name, .text subscript append text)
  | .list name append elements => (name, .list append elements)
  | .word text =>
      let start := text.takeWhile (· != '=')
      if start.length = text.length then ((Expansion.splitName start).1, .nothing)
      else
        let value := text.drop (start.length + 1)
        let append := start.getLast? = some '+'
        let (name, subscript) :=
          Expansion.splitName (if append then start.dropLast else start)
        (name, .text subscript append value)

/-- A declaration. -/
structure Declaration where
  /-- The name of the command. -/
  command : String
  /-- The letters of the traits that are given. -/
  on : List Char
  /-- The letters of the traits that are taken. -/
  off : List Char
  /-- Whether variables become the running function's own. -/
  isLocal : Bool

namespace Declaration

/-- Whether a trait is given. -/
def gives (letter : Char) (declaration : Declaration) : Bool :=
  declaration.on.contains letter

/-- Whether a trait is taken. -/
def takes (letter : Char) (declaration : Declaration) : Bool :=
  declaration.off.contains letter

/-- Whether variables become lists. -/
def makesList (declaration : Declaration) : Bool :=
  declaration.gives 'a' || declaration.gives 'A'

/-- The beginning of messages. -/
def label (declaration : Declaration) : String :=
  if ["export", "readonly"].contains declaration.command then "" else declaration.command ++ ": "

end Declaration

/-- What becomes of a declaration that goes wrong: how the script goes on, and the state. -/
abbrev Refusal := Flow × State

/-- Goes on after a complaint about one name. -/
def refuseName {α : Type} (message : String) (state : State) : Except Refusal α :=
  .error (.next, state.fail message 1)

/-- The traits of a variable after those that values depend on have been given and taken. -/
def earlyTraits (declaration : Declaration) (traits : Traits) : Traits :=
  let pick := fun (letter : Char) (before : Bool) =>
    if declaration.gives letter then true else if declaration.takes letter then false else before
  let letters := if declaration.gives 'u' then LetterCase.raised
    else if declaration.gives 'l' then .lowered
    else if declaration.takes 'u' ∧ traits.letters = .raised then .kept
    else if declaration.takes 'l' ∧ traits.letters = .lowered then .kept
    else traits.letters
  { traits with
    integer := pick 'i' traits.integer, letters := letters, reference := pick 'n' traits.reference }

/-- The traits of a variable after the others have been given and taken. -/
def lateTraits (declaration : Declaration) (traits : Traits) : Traits :=
  { traits with
    readonly := traits.readonly || declaration.gives 'r'
    exported :=
      if declaration.gives 'x' then true
      else if declaration.takes 'x' then false
      else traits.exported }

/-- The content of a variable that becomes a list, or not. -/
def listed (declaration : Declaration) (name : List Char) (entry : Variable) (state : State) :
    Except Refusal Variable :=
  let start := declaration.label ++ toText name ++ ": "
  let isNew : Bool := entry.content == .nothing
  if declaration.gives 'A' then
    match entry.content with
    | .keyed _ => .ok entry
    | .indexed elements =>
        if elements.isEmpty ∧ entry.traits.isBare then
          .ok { entry with content := .keyed [] }
        else refuseName (start ++ "cannot convert indexed to associative array") state
    | .single text => .ok { entry with content := .keyed [(['0'], text)] }
    | .nothing =>
        .ok { entry with content := .keyed [], traits := { entry.traits with isBare := isNew } }
  else if declaration.gives 'a' then
    match entry.content with
    | .keyed _ => refuseName (start ++ "cannot convert associative to indexed array") state
    | .indexed _ => .ok entry
    | content =>
        .ok { entry with
          content := .indexed content.numbered
          traits := { entry.traits with isBare := isNew } }
  else if (declaration.takes 'a' ∨ declaration.takes 'A') ∧ entry.content.isList then
    refuseName (start ++ "cannot destroy array variables in this way") state
  else .ok entry

/-- The words for what is wrong with the name of the variable that a reference is to. -/
def referenceFault? (name target : List Char) (state : State) : Option String :=
  let (base, _) := Expansion.splitName target
  if target.isEmpty then none
  else if !Words.isWholeName base then
    some (shown target ++ ": invalid variable name for name reference")
  else if base = name ∧ !state.isInFunction then
    some (toText name ++ ": nameref variable self references not allowed")
  else none

/-- The name that is used for the items of a list before its variable is there. -/
def probe : List Char := [' ']

/-- The items of a list of values, which do not depend on the variable that they are for. -/
def itemsOf (running : Expansion.Running) (isKeyed : Bool) (elements : List Element)
    (state : State) : Except Refusal (List Expansion.Item × State) :=
  let state := if isKeyed then state.setContent probe (.keyed []) else state
  match Expansion.items running probe elements state with
  | .ok (items, state) => .ok (items, state.unset probe)
  | .error (stop, state) => .error (stopped (stop, state.unset probe))

/-- The elements that a text between parentheses names. -/
def elementsOf? (text : List Char) (state : State) : Option (List Element) :=
  if text.head? = some '(' ∧ text.getLast? = some ')' then
    let reading := state.reading []
    match Script.given reading (Script.fuelFor reading text) text with
    | some (.many elements, []) => some elements
    | _ => none
  else none

/-- Opens a result of giving a value. -/
def opened (result : Except Expansion.Halt (Unit × State)) : Except Refusal State :=
  match result with
  | .ok ((), state) => .ok state
  | .error halt => .error (stopped halt)

/-- A variable before a function makes it its own.  What is seen by programs stays so, and in
one of the shells the value stays, too. -/
def ownedFrom (inherits : Bool) (name : List Char) (before : Option Variable) : Variable :=
  match before with
  | none => ⟨name, .nothing, .none⟩
  | some entry =>
      if inherits then
        { entry with traits := { entry.traits with readonly := false, reference := false } }
      else ⟨name, .nothing, { Traits.none with exported := entry.traits.exported }⟩

/-- Gives a name its traits and its value. -/
def declareName (running : Expansion.Running) (declaration : Declaration) (name : List Char)
    (gift : Gift) (state : State) : Except Refusal State := do
  let isReference := declaration.gives 'n' || declaration.takes 'n'
  let target :=
    if declaration.isLocal || isReference then name else (state.resolve name).1
  let before := state.binding? target
  let gift : Gift := match gift with
    | .text none append text =>
        if declaration.makesList then
          match elementsOf? text state with
          | some elements => .list append elements
          | none => gift
        else gift
    | gift => gift
  let isGiven : Bool := match gift with
    | .nothing => false
    | _ => true
  let isMine := declaration.isLocal && !state.isLocal name
  let isLocked := before.any fun entry => entry.traits.readonly
  if isLocked ∧ (isGiven ∨ isMine ∨ declaration.takes 'r') then
    refuseName (declaration.label ++ toText target ++ ": readonly variable") state
  match gift with
  | .text none _ text =>
      if declaration.gives 'n' then
        match referenceFault? name text state with
        | some fault => refuseName (declaration.command ++ ": " ++ fault) state
        | none => pure ()
  | _ => pure ()
  -- The values are found before the variable is made, which may hide another one.
  let isKeyed := declaration.gives 'A' ||
    (!isMine && before.any fun entry => entry.content.isKeyed)
  let (items, state) : List Expansion.Item × State ← match gift with
    | .list _ elements => itemsOf running isKeyed elements state
    | _ => pure ([], state)
  let state :=
    if isMine then
      let inherits := declaration.gives 'I' || state.has "localvar_inherit"
      let owned := ownedFrom inherits name before
      (state.makeLocal name).restore name (some owned)
    else state
  let entry := (state.binding? target).getD ⟨target, .nothing, .none⟩
  let entry ← listed declaration target entry state
  let entry := match gift with
    | .list _ _ =>
        if entry.content.isList then entry
        else { entry with content := .indexed entry.content.numbered }
    | _ => entry
  let entry := { entry with traits := earlyTraits declaration entry.traits }
  let state := state.restore target (some entry)
  let state : State ← match gift with
    | .nothing => pure state
    | .list append _ => opened (Expansion.assignItems target append items state)
    | .text subscript append text =>
        if declaration.gives 'n' then
          pure (state.modifyVariable target fun entry => { entry with content := .single text })
        else do
          let (key, state) : Option (List Char) × State ← match subscript with
            | none => pure (none, state)
            | some written =>
                let expand := Expansion.textPieces running
                match Expansion.keyOf expand target written state with
                | .ok (key, state) => pure (some key, state)
                | .error halt => .error (stopped halt)
          opened (Expansion.assign target key append text state)
  return state.modifyVariable target fun entry =>
    { entry with traits := lateTraits declaration entry.traits }

/-- Gives a name its traits and its value outside of all functions. -/
def declareOutside (running : Expansion.Running) (declaration : Declaration) (name : List Char)
    (gift : Gift) (state : State) : Except Refusal State :=
  let holders := state.frames.filter fun frame => frame.saved.any fun entry => entry.1 = name
  match holders.getLast? with
  | none => declareName running declaration name gift state
  | some holder =>
      let current := state.bindings.find? fun entry => entry.name = name
      let hidden := (holder.saved.lookup name).getD none
      let depth := holder.saved.length
      match declareName running declaration name gift (state.restore name hidden) with
      | .error (flow, after) => .error (flow, after.restore name current)
      | .ok after =>
          let changed := after.bindings.find? fun entry => entry.name = name
          let put := fun frame : Frame =>
            if frame.saved.length = depth ∧ frame.name = holder.name then
              { frame with
                saved := frame.saved.map fun entry =>
                  if entry.1 = name then (name, changed) else entry }
            else frame
          .ok ({ after with frames := after.frames.map put }.restore name current)

/-- Declares what operands name, one after the other. -/
def declareAll (running : Expansion.Running) (declaration : Declaration) (isOutside : Bool)
    (operands : List Operand) (state : State) : Flow × State :=
  operands.foldl
    (fun (result : Flow × State) operand =>
      let (flow, state) := result
      if flow ≠ .next then result
      else
        let (name, gift) := giftOf operand
        if !Words.isWholeName name then
          (wrongName declaration.command operand.text state)
        else
          let declare := if isOutside then declareOutside else declareName
          match declare running declaration name gift state with
          | .ok state => (.next, state)
          | .error refusal => refusal)
    (.next, state.withStatus 0)

/-- Texts in ascending order. -/
def ascending (texts : List (List Char)) : List (List Char) :=
  ((texts.map String.ofList).mergeSort fun first second => decide (first ≤ second)).map
    String.toList

/-- Variables in the ascending order of their names. -/
def inNameOrder (entries : List Variable) : List Variable :=
  let key := fun entry : Variable => String.ofList entry.name
  entries.mergeSort fun first second => decide (key first ≤ key second)

/-- The names of all functions, in ascending order. -/
def functionNames (state : State) : List (List Char) :=
  ascending (state.functions.map Prod.fst)

/-- A function as it is written. -/
def functionText (name : List Char) (state : State) : List Char :=
  match state.functions.lookup name with
  | some definition => Printing.function name definition.body
  | none => []

/-- Prints functions, or only their names. -/
def showFunctions (onlyNames : Bool) (names : List (List Char)) (state : State) :
    Flow × State :=
  let line := fun name : List Char =>
    let letters := if state.exportedFunctions.contains name then "-fx " else "-f "
    "declare ".toList ++ letters.toList ++ name ++ ['\n']
  if names.isEmpty then
    let all := functionNames state
    let show_ := fun name : List Char =>
      if onlyNames then line name
      else functionText name state ++
        (if state.exportedFunctions.contains name then line name else [])
    print (all.flatMap show_) state
  else
    let known := names.filter fun name => (state.functions.lookup name).isSome
    let show_ := fun name : List Char =>
      if onlyNames then name ++ ['\n'] else functionText name state
    let status := if known.length = names.length then 0 else 1
    done status (state.write 1 (known.flatMap show_))

/-- Whether a variable has one of the traits of letters, if there are any. -/
def hasTraits (letters : List Char) (entry : Variable) : Bool :=
  let asked := letters.filter fun letter => "aAilnrux".toList.contains letter
  asked.isEmpty || asked.any fun letter => (Quoting.traitLetters entry).contains letter

/-- Prints the declarations of variables. -/
def showVariables (command : String) (letters : List Char) (names : List (List Char))
    (state : State) : Flow × State :=
  if names.isEmpty then
    let chosen := state.bindings.filter (hasTraits letters)
    print ((inNameOrder chosen).flatMap fun entry => Quoting.declaration entry ++ ['\n']) state
  else
    names.foldl
      (fun (result : Flow × State) name =>
        let state := result.2
        let own := state.bindings.find? fun entry => entry.name = name
        let dynamic := (state.dynamic? name).map fun content => ⟨name, content, .none⟩
        match own.orElse fun _ => dynamic with
        | some entry => (.next, state.write 1 (Quoting.declaration entry ++ ['\n']))
        | none => (.next, state.fail (command ++ ": " ++ toText name ++ ": not found") 1))
      (.next, state.withStatus 0)

/-- All variables and their values, a line for each. -/
def variableLines (state : State) : List Char :=
  (inNameOrder state.bindings).flatMap fun entry =>
    match state.dialect, entry.content with
    | _, .nothing => []
    | .bash, _ => Quoting.listed entry ++ ['\n']
    | .plain, content =>
        entry.name ++ '=' :: Quoting.inPieces (content.text?.getD []) ++ ['\n']

/-- The letters after plus and minus signs at the start of operands, and the other operands. -/
def signedLetters : List Operand → List Char → List Char → List Char × List Char × List Operand
  | .word text :: rest, on, off =>
      match text with
      | ['-', '-'] => (on, off, rest)
      | '-' :: first :: more => signedLetters rest (on ++ first :: more) off
      | '+' :: first :: more => signedLetters rest on (off ++ first :: more)
      | _ => (on, off, .word text :: rest)
  | rest, on, off => (on, off, rest)

/-- The letters of a shell that declarations know. -/
def declaringLetters (command : String) : List Char :=
  match command with
  | "export" => "fnp".toList
  | "readonly" => "aAfp".toList
  | _ => "aAcfFgiIlnprtux".toList

/-- Declares variables, or prints them. -/
def declare (command : String) : Builtin := fun running operands state =>
  let (on, off, rest) := signedLetters operands [] []
  let names := rest.map Operand.text
  let unknown := (on ++ off).find? fun letter => !(declaringLetters command).contains letter
  let isLocalCommand := command = "local"
  match unknown with
  | some letter => refuseOptions command (.unknown letter) state
  | none =>
      if isLocalCommand ∧ !state.isInFunction then
        refuse command "can only be used in a function" 1 state
      else if on.contains 'F' then showFunctions true names state
      else if on.contains 'f' then showFunctions false names state
      else if on.contains 'p' then showVariables command on names state
      else if rest.isEmpty then
        if isLocalCommand then
          let own := (state.frames.find? Frame.isFunction).map Frame.saved |>.getD []
          let entries := state.bindings.filter fun entry =>
            own.any fun before => before.1 = entry.name
          print ((inNameOrder entries).flatMap fun entry =>
            Quoting.declaration entry ++ ['\n']) state
        else if on.isEmpty ∧ off.isEmpty then
          print (variableLines state ++ (functionNames state).flatMap fun name =>
            functionText name state) state
        else showVariables command (on ++ off) [] state
      else
        let isOutside := on.contains 'g'
        let declaration : Declaration :=
          { command := command, on := on, off := off
            isLocal := (isLocalCommand || !isOutside) && state.isInFunction }
        let operands := rest.filter fun operand => operand.text != ['-']
        declareAll running declaration isOutside operands state

/-- Gives a trait to variables in the shell with the extensions. -/
def giveTrait (command : String) (letter : Char) : Builtin := fun running operands state =>
  let (given, _, rest) := signedLetters operands [] []
  let names := rest.map Operand.text
  match given.find? fun found => !(declaringLetters command).contains found with
  | some unknown => refuseOptions command (.unknown unknown) state
  | none =>
      let isFunctions := given.contains 'f'
      if rest.isEmpty then
        let chosen := state.bindings.filter fun entry =>
          (Quoting.traitLetters entry).contains letter
        print ((inNameOrder chosen).flatMap fun entry =>
          Quoting.declaration entry ++ ['\n']) state
      else if isFunctions then
        names.foldl
          (fun (result : Flow × State) name =>
            let state := result.2
            if (state.functions.lookup name).isNone then
              (.next, state.fail (command ++ ": " ++ toText name ++ ": not a function") 1)
            else if letter = 'x' then
              let others := state.exportedFunctions.filter (· != name)
              (.next, { state with
                exportedFunctions := if given.contains 'n' then others else name :: others })
            else (.next, state))
          (.next, state.withStatus 0)
      else
        let takes := letter = 'x' && given.contains 'n'
        let lists := given.filter fun found => found = 'a' || found = 'A'
        let declaration : Declaration :=
          { command := command
            on := if takes then [] else letter :: (if letter = 'r' then lists else [])
            off := if takes then [letter] else []
            isLocal := false }
        declareAll running declaration false rest state

/-- Gives a trait to variables in the plain shell, or prints those that have it. -/
def giveTraitPlainly (command : String) (letter : Char) : Builtin := fun _ operands state =>
  let isLocal := command = "local"
  if isLocal ∧ !state.isInFunction then refuse command "not in a function" usage state
  else
    let read := if isLocal then .ok ([], operands.map Operand.text)
      else letters "p" (operands.map Operand.text)
    match read with
    | .error trouble => refuseOptions command trouble state
    | .ok (given, names) =>
        if isGiven 'p' given ∨ (names.isEmpty ∧ !isLocal) then
          let chosen := state.bindings.filter fun entry =>
            (Quoting.traitLetters entry).contains letter
          print ((inNameOrder chosen).flatMap fun entry =>
            command.toList ++ ' ' :: entry.name ++
              (match entry.content with
                | .single text => '=' :: Quoting.inPieces text
                | _ => []) ++ ['\n']) state
        else
          names.foldl
            (fun (result : Flow × State) text =>
              let (flow, state) := result
              if flow ≠ .next then result
              else
                let name := text.takeWhile (· != '=')
                if !Words.isWholeName name then
                  refuse command (toText name ++ ": bad variable name") usage state
                else
                  let state := if isLocal then state.makeLocal name else state
                  let isLocked := (state.binding? name).any fun entry => entry.traits.readonly
                  let isValue := name.length < text.length
                  if isValue ∧ isLocked then
                    refuse command (toText name ++ ": is read only") usage state
                  else
                    let state :=
                      if isValue then
                        (state.setVariable name (text.drop (name.length + 1))).setSpecial name
                          (text.drop (name.length + 1))
                      else state
                    (.next, state.modifyVariable name fun entry =>
                      { entry with
                        traits := { entry.traits with
                          exported := entry.traits.exported || letter = 'x'
                          readonly := entry.traits.readonly || letter = 'r' } }))
            (.next, state.withStatus 0)

/-- Removes one element of a variable. -/
def unsetElement (running : Expansion.Running) (name key : List Char) (state : State) :
    Flow × State :=
  let (target, _) := state.resolve name
  let content := state.content target
  let keep := fun content : Content => (.next, state.setContent target content)
  match content, key with
  | .indexed _, ['@'] => keep (.indexed [])
  | .indexed _, ['*'] => keep (.indexed [])
  | _, _ =>
      match Expansion.keyOf (Expansion.textPieces running) target key state with
      | .error halt => stopped halt
      | .ok (found, state) =>
          match content with
          | .keyed elements =>
              (.next, state.setContent target
                (.keyed (elements.filter fun element => element.1 != found)))
          | .indexed elements =>
              let index := (toInt? found).getD 0
              let index := if index < 0 then (content.size : Int) + index else index
              if index < 0 then
                refuse "unset" ("[" ++ toText key ++ "]: bad array subscript") 1 state
              else
                (.next, state.setContent target
                  (.indexed (elements.filter fun element => element.1 != index.toNat)))
          | _ =>
              if found = ['0'] then (.next, state.unset target)
              else refuse "unset" (toText name ++ ": not an array variable") 1 state

/-- Removes a function. -/
def unsetFunction (name : List Char) (state : State) : State :=
  { state with
    functions := state.functions.filter fun entry => entry.1 != name
    exportedFunctions := state.exportedFunctions.filter (· != name) }

/-- Removes a variable or a function by its name. -/
def unsetName (running : Expansion.Running) (given : List (Char × List Char)) (text : List Char)
    (state : State) : Flow × State :=
  let (name, subscript) := Expansion.splitName text
  let isName := Words.isWholeName name
  if isGiven 'f' given then (.next, unsetFunction text state)
  else if !isName then
    if !state.isBash then refuse "unset" (toText text ++ ": bad variable name") usage state
    else if isGiven 'v' given then
      refuse "unset" (shown text ++ ": not a valid identifier") 1 state
    else (.next, unsetFunction text state)
  else
    let target := if isGiven 'n' given then name else (state.resolve name).1
    if (state.binding? target).any fun entry => entry.traits.readonly then
      refuseBy "unset" (toText target ++ ": cannot unset: readonly variable")
        (toText target ++ ": is read only") 1 state
    else
      match subscript with
      | some key => unsetElement running name key state
      | none =>
          match isGiven 'n' given, (state.resolve name).2 with
          | false, some key => unsetElement running target key state
          | _, _ =>
              let isThere := state.bindings.any fun entry => entry.name = target
              if isThere ∨ isGiven 'v' given ∨ !state.isBash then
                (.next, state.unset target)
              else (.next, unsetFunction text state)

/-- Removes variables or functions. -/
def unset : Builtin := fun running operands state =>
  let forms := if state.isBash then "fvn" else "fv"
  withLetters "unset" forms (operands.map Operand.text) state fun given names =>
    if state.isBash ∧ isGiven 'f' given ∧ isGiven 'v' given then
      refuse "unset" "cannot simultaneously unset a function and a variable" 1 state
    else
      names.foldl
        (fun (result : Flow × State) name =>
          if result.1 ≠ .next then result else unsetName running given name result.2)
        (.next, state.withStatus 0)

/-- An alias as it is written. -/
def aliasLine (state : State) (entry : List Char × List Char) : List Char :=
  if state.isBash then
    "alias ".toList ++ (if entry.1.head? = some '-' then "-- ".toList else []) ++ entry.1 ++
      '=' :: Quoting.inSingle entry.2 ++ ['\n']
  else entry.1 ++ '=' :: Quoting.inPieces entry.2 ++ ['\n']

/-- The place of a name among the aliases of the plain shell. -/
def aliasPlace (name : List Char) : Nat :=
  let first := (name.head?.map Char.toNat).getD 0
  (name.foldl (fun sum octet => sum + octet.toNat) (first * 16)) % 39

/-- The aliases in the order in which they are listed. -/
def aliasesInOrder (state : State) : List (List Char × List Char) :=
  if state.isBash then
    state.aliases.mergeSort fun first second =>
      decide (String.ofList first.1 ≤ String.ofList second.1)
  else
    state.aliases.reverse.mergeSort fun first second => aliasPlace first.1 ≤ aliasPlace second.1

/-- Whether a name can be that of an alias. -/
def isAliasName (name : List Char) : Bool :=
  !name.isEmpty && name.all fun octet =>
    !(Words.isMeta octet || "\\'\"$\x60/".toList.contains octet)

/-- Sets words that stand for other text, or prints them. -/
def alias_ : Builtin := ofWords fun arguments state =>
  let run := fun (isListed : Bool) (operands : List (List Char)) =>
    let state := if isListed ∨ operands.isEmpty then
        state.write 1 ((aliasesInOrder state).flatMap (aliasLine state))
      else state
    operands.foldl
      (fun (result : Flow × State) text =>
        let state := result.2
        let start := text.takeWhile (· != '=')
        if start.length = text.length ∨ start.isEmpty then
          match state.aliases.lookup text with
          | some value => (.next, state.write 1 (aliasLine state (text, value)))
          | none =>
              if state.isBash then
                (.next, state.fail ("alias: " ++ toText text ++ ": not found") 1)
              else
                (.next, (state.write 2 (ofText ("alias: " ++ toText text ++
                  " not found\n"))).withStatus 1)
        else if state.isBash ∧ !isAliasName start then
          (.next, state.fail ("alias: " ++ shown start ++ ": invalid alias name") 1)
        else
          let value := text.drop (start.length + 1)
          let known := (state.aliases.lookup start).isSome
          let changed :=
            if known then
              state.aliases.map fun entry => if entry.1 = start then (start, value) else entry
            else (start, value) :: state.aliases
          (.next, { state with aliases := changed }))
      (.next, state.withStatus 0)
  if state.isBash then
    withLetters "alias" "p" arguments state fun given rest => run (isGiven 'p' given) rest
  else run false arguments

/-- Removes words that stand for other text. -/
def unalias : Builtin := ofWords fun arguments state =>
  withLetters "unalias" "a" arguments state fun given names =>
    if isGiven 'a' given then done 0 { state with aliases := [] }
    else if names.isEmpty ∧ state.isBash then misused "unalias" state
    else
      names.foldl
        (fun (result : Flow × State) name =>
          let state := result.2
          if (state.aliases.lookup name).isSome then
            (.next, { state with
              aliases := state.aliases.filter fun entry => entry.1 != name })
          else if state.isBash then
            (.next, state.fail ("unalias: " ++ toText name ++ ": not found") 1)
          else
            (.next, (state.write 2 (ofText ("unalias: " ++ toText name ++
              " not found\n"))).withStatus 1))
        (.next, state.withStatus 0)

end Builtin
end Shell
end Snippets
