import Snippets.Shell.Arithmetic
import Snippets.Shell.Braces
import Snippets.Shell.Globbing
import Snippets.Shell.Quoting
import Snippets.Shell.Splitting

/-!
# Expanding words

A word becomes any number of fields.  Braces are multiplied out, parameters, scripts and
expressions give way to their values, values outside quotes are split at blank
characters, and patterns become the names of the files that they match.
-/

namespace Snippets
namespace Shell
namespace Expansion

/-- How much ends with a word that has no expansion. -/
inductive Stop where
  /-- The command that the word is in. -/
  | command
  /-- The whole script. -/
  | script
  deriving DecidableEq

/-- How much ends, and the state in which it does. -/
abbrev Halt := Stop × State

/-- How scripts are run that words and commands of the shell hold. -/
structure Running where
  /-- What a script prints. -/
  substitute : List Char → State → List Char × State
  /-- How a script changes the shell that it runs in. -/
  evaluate : List Char → State → Flow × State
  /-- The path of a file that a script fills, or of one that it reads. -/
  process : List Char → Bool → State → List Char × State

/-- Complains, and says how much ends. -/
def refuse {α : Type} (stop : Stop) (message : List Char) (state : State) :
    Except Halt (α × State) :=
  .error (stop, state.complain message)

/-- The text of pieces that are not split. -/
def join (pieces : List Piece) : List Char :=
  pieces.flatMap Piece.text

/-- The characters of a text, as far as the shell tells them from octets. -/
def decode (state : State) (octets : List Char) : List Char :=
  Globbing.charactersOf state octets

/-- The octets of characters. -/
def encode (state : State) (characters : List Char) : List Char :=
  Globbing.octetsOf state characters

/-- The pattern of pieces. -/
def pattern (state : State) (pieces : List Piece) : List Glyph :=
  pieces.flatMap (Piece.glyphs (decode state))

/-- How patterns of texts are read. -/
def style (state : State) : Pattern.Style :=
  ⟨state.isBash && state.has "extglob", state.has "nocasematch",
    if state.isBash then .pattern else .plain⟩

/-- How patterns are read that are dropped from texts, in which letters are told apart. -/
def exactStyle (state : State) : Pattern.Style :=
  { style state with ignoresCase := false }

/-- The characters that separate fields. -/
def separators (state : State) : List Char :=
  (state.value? "IFS".toList).getD " \t\n".toList

/-- What stands between texts that are joined. -/
def between (state : State) : List Char :=
  (separators state).take 1

/-- What a word is expanded for. -/
inductive Purpose where
  /-- The fields of a command. -/
  | fields
  /-- The value of a name, or a line that a command reads. -/
  | value
  /-- Another text. -/
  | text
  /-- The lines that a command reads. -/
  | document
  deriving DecidableEq

/-- Whether values that have been changed by an operation are joined at the separator where they
are given to a name. -/
def separatesInValue (whole : Bool) : Operation → Bool
  | .value | .default _ | .assign _ | .alternative _ | .require _ => false
  | .dropStart _ | .dropEnd _ | .transform _ | .names _ => true
  | _ => whole

/-- What stands in place of a parameter. -/
inductive Values where
  /-- One text, or none. -/
  | one (text : Option (List Char))
  /-- Several texts, which may be joined. -/
  | many (texts : List (List Char)) (joined : Bool)

namespace Values

/-- The text of values in one piece. -/
def text (state : State) : Values → List Char
  | one text => text.getD []
  | many texts joined => (if joined then between state else [' ']).intercalate texts

/-- The number of octets that stand between values in the plain shell. -/
def gap (whole joined : Bool) (purpose : Purpose) (state : State) : Nat :=
  if purpose = .fields ∧ !(whole ∧ joined) then 1 else (between state).length

/-- The number of octets of several texts with gaps between them. -/
def extent (gap : Nat) (texts : List (List Char)) : Nat :=
  texts.foldl (fun total text => total + text.length) 0 + gap * (texts.length - 1)

/-- Whether there is no value, or an empty one where that counts too. -/
def isMissing (orEmpty whole : Bool) (purpose : Purpose) (state : State) : Values → Bool
  | one none => true
  | one (some text) => orEmpty && text.isEmpty
  | many texts joined =>
      if state.isBash then
        texts.isEmpty || (orEmpty && (text state (many texts joined)).isEmpty)
      else orEmpty && extent (gap whole joined purpose state) texts = 0

/-- Values with each text changed. -/
def map (change : List Char → List Char) : Values → Values
  | one text => one (some (change (text.getD [])))
  | many texts joined => many (texts.map change) joined

/-- What stands between the values of a name after an operation where they become one text. -/
def separator (name : List Char) (operation : Operation) (whole joined : Bool) (purpose : Purpose)
    (state : State) : List Char :=
  if !state.isBash then between state
  else if joined then
    (if purpose = .document ∧ name = ['*'] then [' '] else between state)
  else if purpose = .value ∧ separatesInValue whole operation then between state
  else [' ']

/-- The pieces of a text that is one value.  An empty one between double quotes is no piece in one
of the shells. -/
def textPieces (whole : Bool) (text : List Char) (state : State) : List Piece :=
  if whole then (if text.isEmpty ∧ state.isBash then [] else [.octets text true])
  else [.value text]

/-- The pieces of values, given what stands between them. -/
def pieces (whole : Bool) (separator : List Char) (purpose : Purpose) (state : State) :
    Values → List Piece
  | one text => textPieces whole (text.getD []) state
  | many texts joined =>
      let text := separator.intercalate texts
      match state.dialect, purpose with
      | .bash, .fields =>
          if whole ∧ !joined then [.fields texts true separator]
          else if whole then textPieces true text state
          else if (between state).isEmpty then [.fields texts false separator]
          else [.value ((between state).intercalate texts)]
      | .plain, .fields =>
          if joined ∧ whole then [.octets text true] else [.fields texts whole separator]
      | _, _ => textPieces whole text state

end Values

/-- The number of an expression, and the state that it leaves. -/
def arithmetic (text : List Char) (state : State) : Except Halt (Int × State) :=
  match Arithmetic.valueOfText text state with
  | .ok found => .ok found
  | .error (trouble, state) =>
      let stop := match trouble with
        | .ending _ => Stop.script
        | _ => .command
      refuse stop trouble.message state

/-- Gives a text to a variable, or to one of its elements, by the traits of the variable. -/
def assign (name : List Char) (key : Option (List Char)) (append : Bool) (value : List Char)
    (state : State) : Except Halt (Unit × State) := do
  let (target, inner) := state.resolve name
  let key := key.orElse fun _ => inner
  let entry := state.binding? target
  let traits := (entry.map Variable.traits).getD .none
  if traits.readonly then
    if state.isBash then refuse .command (target ++ ": readonly variable".toList) state
    else refuse .script (target ++ ": is read only".toList) state
  else
    let content := (entry.map Variable.content).getD .nothing
    let before := match key, content with
      | none, content => content.text?
      | some key, .keyed elements => elements.lookup key
      | some key, content => (toNat? key).bind content.at?
    let (value, state) ←
      if traits.integer then do
        let (number, state) ← arithmetic value state
        if append then
          let (other, state) ← arithmetic (before.getD []) state
          pure (ofInt (Arithmetic.wrap (other + number)), state)
        else pure (ofInt number, state)
      else pure (if append then before.getD [] ++ value else value, state)
    let value := match traits.letters with
      | .kept => value
      | .raised => ofCharacters ((characters value).map raiseCharacter)
      | .lowered => ofCharacters ((characters value).map lowerCharacter)
    match state.setElement target key value with
    | some state =>
        let state := state.setSpecial target value
        let state :=
          if state.has "allexport" then
            state.modifyVariable target fun entry =>
              { entry with traits := { entry.traits with exported := true } }
          else state
        .ok ((), state)
    | none => refuse .command (target ++ ": bad array subscript".toList) state

/-- How parts are expanded. -/
abbrev Expand := List Part → State → Except Halt (List Piece × State)

/-- The key, or the number, that the text of a subscript stands for. -/
def keyOf (expand : Expand) (name text : List Char) (state : State) :
    Except Halt (List Char × State) := do
  match Script.wordParts? (state.reading []) text with
  | none => refuse .command (text ++ ": bad array subscript".toList) state
  | some parts =>
      let (found, state) ← expand parts state
      let key := join found
      if (state.content name).isKeyed then return (key, state)
      else
        let (index, state) ← arithmetic key state
        return (ofInt index, state)

/-- The element of a variable under a key or a number. -/
def elementAt (content : Content) (key : List Char) : Option (List Char) :=
  match content with
  | .keyed elements => elements.lookup key
  | content =>
      (toInt? key).bind fun index =>
        let index := if index < 0 then (content.size : Int) + index else index
        if index < 0 then none else content.at? index.toNat

/-- The values that a subject stands for, whether it is indirect or not. -/
def directValues (expand : Expand) (name : List Char) (subscript : Option (List Char))
    (state : State) : Except Halt (Values × State) := do
  match name, subscript with
  | ['@'], _ => return (.many state.arguments false, state)
  | ['*'], _ => return (.many state.arguments true, state)
  | _, some ['@'] => return (.many (state.content name).texts false, state)
  | _, some ['*'] => return (.many (state.content name).texts true, state)
  | _, some text =>
      let (key, state) ← keyOf expand name text state
      return (.one (elementAt (state.content name) key), state)
  | _, none =>
      let (value, state) := state.read name
      return (.one value, state)

/-- A name and the text between brackets after it. -/
def splitName (text : List Char) : List Char × Option (List Char) :=
  let name := text.takeWhile (· != '[')
  if name.length = text.length ∨ text.getLast? ≠ some ']' then (text, none)
  else (name, some ((text.drop (name.length + 1)).dropLast))

/-- Whether a name and the text between brackets after it may be those of a parameter. -/
def namesParameter (name : List Char) (subscript : Option (List Char)) : Bool :=
  Words.isWholeName name || (subscript.isNone &&
    (name.all Char.isDigit || match name with
      | [character] => Words.isSpecial character
      | _ => false))

/-- The name and the subscript that a subject stands for, and the values. -/
def subjectValues (expand : Expand) (subject : Subject) (state : State) :
    Except Halt ((List Char × Option (List Char) × Values) × State) := do
  if subject.indirect then
    let isReference := (state.bindings.find? fun entry => entry.name = subject.name).any
      fun entry => entry.traits.reference
    if isReference then
      let (name, _) := state.resolve subject.name
      return ((subject.name, none, .one (some name)), state)
    else
      let (target, state) ← directValues expand subject.name subject.subscript state
      let text := target.text state
      let (name, subscript) := splitName text
      if text.isEmpty then
        if subject.name = ['@'] ∨ subject.name = ['*'] then
          return ((subject.name, none, .one none), state)
        else refuse .command (subject.name ++ ": invalid indirect expansion".toList) state
      else if !namesParameter name subscript then
        refuse .command (text ++ ": invalid variable name".toList) state
      else
        let (values, state) ← directValues expand name subscript state
        return ((name, subscript, values), state)
  else
    let (values, state) ← directValues expand subject.name subject.subscript state
    return ((subject.name, subject.subscript, values), state)

/-- The home directory that the name of a user stands for. -/
def homeOf (state : State) (user : List Char) : Option (List Char) :=
  match String.ofList user with
  | "" => some ((state.value? "HOME".toList).getD "/root".toList)
  | "+" => if state.isBash then state.value? "PWD".toList else none
  | "-" => if state.isBash then state.value? "OLDPWD".toList else none
  | "root" => some "/root".toList
  | "daemon" => some "/usr/sbin".toList
  | "bin" => some "/bin".toList
  | "nobody" => some "/nonexistent".toList
  | _ => none

/-- The parts that a tilde and the name after it stand for, before what follows them. -/
def tildeParts (state : State) (octets : List Char) (ends : Char → Bool) (isLast : Bool) :
    List Part :=
  match octets with
  | '~' :: rest =>
      let user := rest.takeWhile fun octet => !ends octet
      let after := rest.drop user.length
      if after.isEmpty ∧ !isLast then [.plain octets]
      else
        match homeOf state user with
        | some home => [.quoted home, .plain after]
        | none => [.plain octets]
  | octets => [.plain octets]

/-- Parts with the home directory in place of a tilde at their start. -/
def expandTilde (state : State) (parts : List Part) : List Part :=
  match parts with
  | .plain ('~' :: octets) :: rest =>
      tildeParts state ('~' :: octets) (fun octet => octet = '/') rest.isEmpty ++ rest
  | _ => parts

/-- The parts between the colons of a text, with the colons at their ends. -/
def colonParts : List Char → List Char → List (List Char)
  | current, [] => [current.reverse]
  | current, ':' :: rest => (':' :: current).reverse :: colonParts [] rest
  | current, octet :: rest => colonParts (octet :: current) rest

/-- The parts of a value with the home directory in place of a tilde at the start or after a
colon. -/
def expandTildes (state : State) (atStart : Bool) : List Part → List Part
  | [] => []
  | .plain octets :: rest =>
      let pieces := colonParts [] octets
      let count := pieces.length
      let expanded := pieces.zipIdx.flatMap fun (piece, index) =>
        if piece.head? = some '~' ∧ (index > 0 ∨ atStart) then
          tildeParts state piece (fun octet => octet = '/' || octet = ':')
            (index + 1 < count ∨ rest.isEmpty)
        else [.plain piece]
      expanded ++ expandTildes state (octets.getLast? = some ':') rest
  | part :: rest => part :: expandTildes state false rest

/-- The parts of a word that looks like a value for a name, with tildes expanded in it. -/
def expandAssigned (state : State) (parts : List Part) : List Part :=
  match parts with
  | .plain octets :: rest =>
      let name := octets.takeWhile Words.isName
      match octets.drop name.length with
      | '=' :: value =>
          if Words.isWholeName name then
            .plain (name ++ ['=']) ::
              expandTildes state true (if value.isEmpty then rest else .plain value :: rest)
          else parts
      | _ => parts
  | _ => parts

/-- What is before the first slash outside quotes and what follows it. -/
def splitSlash : List Part → List Part → List Part × List Part
  | before, [] => (before.reverse, [])
  | before, .plain octets :: rest =>
      if octets.contains '/' then
        let first := octets.takeWhile (· != '/')
        ((.plain first :: before).reverse, .plain (octets.drop (first.length + 1)) :: rest)
      else splitSlash (.plain octets :: before) rest
  | before, part :: rest => splitSlash (part :: before) rest

/-- The pattern and the replacement of an operand.  A slash at its start belongs to the
pattern. -/
def splitOperand (operand : List Part) : List Part × List Part :=
  match operand with
  | .plain ('/' :: octets) :: rest =>
      let (first, second) := splitSlash [] (.plain octets :: rest)
      (.plain ['/'] :: first, second)
  | operand => splitSlash [] operand

/-- A replacement with what has been matched in place of each sign for it. -/
def fillIn (matched : List Char) : List Glyph → List Char
  | ('\\', false) :: ('&', _) :: rest => '&' :: fillIn matched rest
  | ('&', false) :: rest => matched ++ fillIn matched rest
  | (character, _) :: rest => character :: fillIn matched rest
  | [] => []

/-- A text in which what a pattern stands for is replaced.  A sign at the start of the
pattern says that it is replaced everywhere, at the start, or at the end. -/
def replaceIn (style : Pattern.Style) (pattern : List Glyph) (replacement : List Glyph)
    (text : List Char) : List Char :=
  let change := fun matched : List Char => fillIn matched replacement
  let inside := fun (pattern : List Glyph) (everywhere : Bool) =>
    let compiled := Pattern.compile style pattern
    if pattern.isEmpty then text
    else if text.isEmpty then (if compiled.isMatch [] then change [] else [])
    else compiled.replace change everywhere (text.length + 1) text
  match pattern with
  | ('/', false) :: pattern =>
      inside pattern true
  | ('#', false) :: pattern =>
      match (Pattern.compile style pattern).startLength? true text with
      | some length => change (text.take length) ++ text.drop length
      | none => text
  | ('%', false) :: pattern =>
      match (Pattern.compile style pattern).endLength? true text with
      | some length =>
          let start := text.length - length
          text.take start ++ change (text.drop start)
      | none => text
  | pattern => inside pattern false

/-- A text with the letters that match a pattern changed: the first one, or every one. -/
def recase (style : Pattern.Style) (pattern : List Glyph) (change : Char → Char)
    (everywhere : Bool) (text : List Char) : List Char :=
  let compiled := Pattern.compile style pattern
  let changed := fun character : Char =>
    if pattern.isEmpty || compiled.isMatch [character] then change character else character
  if everywhere then text.map changed
  else
    match text with
    | [] => []
    | first :: rest => changed first :: rest

/-- Capitals as small letters, and small letters as capitals. -/
def swapCase (character : Char) : Char :=
  if isCapital character then lowerCharacter character else raiseCharacter character

/-- The place of the colon between the two expressions of an operand, if there is one.  The
colon of a choice between two expressions is none. -/
def colonPlace : Nat → Nat → Nat → List Char → Option Nat
  | _, _, _, [] => none
  | place, choices, depth, character :: rest =>
      match character with
      | '(' => colonPlace (place + 1) choices (depth + 1) rest
      | ')' => colonPlace (place + 1) choices (depth - 1) rest
      | '?' => colonPlace (place + 1) (choices + 1) depth rest
      | ':' =>
          if depth = 0 ∧ choices = 0 then some place
          else colonPlace (place + 1) (choices - 1) depth rest
      | _ => colonPlace (place + 1) choices depth rest

/-- The start and the length that an operand gives. -/
def bounds (operand : List Char) (state : State) : Except Halt ((Int × Option Int) × State) := do
  match colonPlace 0 0 0 operand with
  | none =>
      let (start, state) ← arithmetic operand state
      return ((start, none), state)
  | some place =>
      let (start, state) ← arithmetic (operand.take place) state
      let (count, state) ← arithmetic (operand.drop (place + 1)) state
      return ((start, some count), state)

/-- The part of a text at a place, of a length if one is given. -/
def sliceText (start : Int) (count : Option Int) (text : List Char) : Option (List Char) :=
  let size : Int := text.length
  let start := if start < 0 then size + start else start
  if start < 0 ∨ size < start then some []
  else
    let rest := text.drop start.toNat
    match count with
    | none => some rest
    | some count =>
        if count < 0 then
          (if size + count < start then none else some (rest.take (size + count - start).toNat))
        else some (rest.take count.toNat)

/-- The values under keys from a place on, at most as many as given.  The places are counted from
one. -/
def sliceKeyed (start : Int) (count : Option Int) (texts : List (List Char)) :
    List (List Char) :=
  let start := if start < 0 then (texts.length : Int) + 1 + start else start
  if start < 0 then []
  else
    let rest := texts.drop (start.toNat - 1)
    match count with
    | some count => rest.take count.toNat
    | none => rest

/-- The elements from a number on, at most as many as given. -/
def sliceList (start : Int) (count : Option Int) (elements : List (Nat × List Char)) :
    List (List Char) :=
  let size : Int := ((elements.getLast?.map fun element => element.1 + 1).getD 0 : Nat)
  let start := if start < 0 then size + start else start
  if start < 0 then []
  else
    let rest := elements.filter fun element => start ≤ element.1
    let rest := match count with
      | some count => rest.take count.toNat
      | none => rest
    rest.map Prod.snd

/-- The elements that a subject stands for, with their numbers. -/
def numberedElements (name : List Char) (state : State) : List (Nat × List Char) :=
  if name = ['@'] ∨ name = ['*'] then
    (state.name :: state.arguments).zipIdx.map fun entry => (entry.2, entry.1)
  else (state.content name).numbered

/-- A text in which escapes give way to what they stand for. -/
def readEscapes (text : List Char) : List Char :=
  let quoted := text.flatMap fun octet => if octet = '\'' then ['\\', '\''] else [octet]
  ((Words.inDollarQuotes (2 * text.length + 4) [] (quoted ++ ['\''])).map Prod.fst).getD text

/-- What a transformation makes of a text. -/
def transformText (letter : Char) (text : List Char) : List Char :=
  match letter with
  | 'Q' | 'K' | 'k' => Quoting.asValue text
  | 'E' | 'P' => readEscapes text
  | 'U' => ofCharacters ((characters text).map raiseCharacter)
  | 'L' => ofCharacters ((characters text).map lowerCharacter)
  | 'u' =>
      match characters text with
      | first :: rest => ofCharacters (raiseCharacter first :: rest)
      | [] => []
  | _ => text

/-- What a transformation makes of the values of a name. -/
def transform (letter : Char) (name : List Char) (values : Values) (state : State) : Values :=
  let entry := state.binding? (state.resolve name).1
  match letter, values with
  | 'a', .many texts joined =>
      .many (texts.map fun _ => (entry.map Quoting.traitLetters).getD []) joined
  | 'a', .one _ => .one (entry.map Quoting.traitLetters)
  | 'A', .many _ joined =>
      match entry with
      | some entry => .many [Quoting.declaration entry] joined
      | none => .many [] joined
  | 'A', .one (some text) =>
      let letters := (entry.map Quoting.traitLetters).getD []
      let start := if letters.isEmpty then [] else "declare -".toList ++ letters ++ [' ']
      .one (some (start ++ name ++ '=' :: Quoting.asValue text))
  | 'K', .many _ joined =>
      let shown := (state.content name).entries.map fun found =>
        let key := if (state.content name).isKeyed then Quoting.asKey found.1 else found.1
        key ++ ' ' :: Quoting.asDeclared found.2
      .many [[' '].intercalate shown] joined
  | 'k', .many _ joined =>
      .many ((state.content name).entries.flatMap fun found => [found.1, found.2]) joined
  | _, .one none => .one none
  | letter, values => values.map (transformText letter)

/-- The number of characters of a text. -/
def length (state : State) (text : List Char) : Nat :=
  (decode state text).length

/-- The length of the values of a subject: the number of several values in one shell, and the
number of all their octets in the other. -/
def lengthOf (values : Values) (whole : Bool) (purpose : Purpose) (state : State) : Nat :=
  match values with
  | .one text => length state (text.getD [])
  | .many texts joined =>
      if state.isBash then texts.length
      else Values.extent (Values.gap whole joined purpose state) texts

/-- The words for a value that is missing. -/
def missingWords (orEmpty : Bool) (state : State) : List Char :=
  match state.dialect, orEmpty with
  | .bash, true => "parameter null or not set".toList
  | .bash, false => "parameter not set".toList
  | .plain, true => "parameter not set or null".toList
  | .plain, false => "parameter not set".toList

/-- Pieces of an operand that takes the place of a value.  Outside of quotes it is split like a
value. -/
def inPlaceOfValue (whole : Bool) (found : List Piece) : List Piece :=
  if whole then found
  else found.map fun
    | .octets text false => .value text
    | piece => piece

/-- Whether a subject stands for several fields even between double quotes. -/
def isList (name : List Char) (subscript : Option (List Char)) : Bool :=
  name = ['@'] || subscript = some ['@']

/-- What an operation makes of the values of a subject. -/
def operate (expand : Purpose → Expand) (purpose : Purpose) (name : List Char)
    (subscript : Option (List Char)) (values : Values) (operation : Operation) (operand : List Part) (whole : Bool)
    (state : State) : Except Halt (List Piece × State) := do
  let show_ := fun (values : Values) (state : State) =>
    let separator := fun joined => Values.separator name operation whole joined purpose state
    let joined := match values with
      | .many _ joined => joined
      | .one _ => false
    (.ok (values.pieces whole (separator joined) purpose state, state) :
      Except Halt (List Piece × State))
  let overText := fun (change : List Char → List Char) (state : State) =>
    show_ (values.map fun text => encode state (change (decode state text))) state
  let trimmed := fun (changeAll : List (List Char) → List (List Char))
      (change : List Char → List Char) (state : State) =>
    match state.dialect, values with
    | .plain, .many texts joined =>
        if purpose = .fields ∧ !(whole ∧ joined) then
          (match texts with
            | [] => show_ (.one (some [])) state
            | texts => show_ (.many (changeAll texts) joined) state)
        else show_ (.one (some (change ((between state).intercalate texts)))) state
    | _, _ => overText change state
  let isNothing : Bool := match state.dialect, values with
    | .bash, .many [] _ => Words.isPattern operation
    | _, _ => false
  if isNothing then show_ values state
  else match operation with
  | .value => show_ values state
  | .length => show_ (.one (some (ofNat (lengthOf values whole purpose state)))) state
  | .default orEmpty =>
      if values.isMissing orEmpty whole purpose state then
        let (found, state) ← expand purpose (expandTilde state operand) state
        return (inPlaceOfValue whole found, state)
      else show_ values state
  | .assign orEmpty =>
      if values.isMissing orEmpty whole purpose state then
        let (found, state) ← expand .text (expandTilde state operand) state
        let (key, state) ← match subscript with
          | none => pure (none, state)
          | some text => do
              let (key, state) ← keyOf (expand .text) name text state
              pure (some key, state)
        if !Words.isWholeName name then
          refuse .command ('$' :: name ++ ": cannot assign in this way".toList) state
        else
          let ((), state) ← assign name key false (join found) state
          show_ (.one (some (join found))) state
      else show_ values state
  | .alternative orEmpty =>
      if values.isMissing orEmpty whole purpose state then
        let isVoid := state.isBash ∧ isList name subscript
        return (if isVoid then [.fields [] whole []] else [], state)
      else
        let (found, state) ← expand purpose (expandTilde state operand) state
        return (inPlaceOfValue whole found, state)
  | .require orEmpty =>
      if values.isMissing orEmpty whole purpose state then
        let (found, state) ← expand .text operand state
        let words := if operand.isEmpty then missingWords orEmpty state else join found
        refuse .script (name ++ ": ".toList ++ words) state
      else show_ values state
  | .dropStart longest =>
      let (found, state) ← expand .text (expandTilde state operand) state
      let compiled := Pattern.compile (exactStyle state) (pattern state found)
      trimmed (Trimming.dropStart longest compiled)
        (fun text => text.drop ((compiled.startLength? longest text).getD 0)) state
  | .dropEnd longest =>
      let (found, state) ← expand .text (expandTilde state operand) state
      let compiled := Pattern.compile (exactStyle state) (pattern state found)
      trimmed (Trimming.dropEnd longest compiled)
        (fun text => text.take (text.length - (compiled.endLength? longest text).getD 0)) state
  | .replace =>
      let (first, second) := splitOperand operand
      let (found, state) ← expand .text first state
      let (replacement, state) ← expand .text (expandTilde state second) state
      overText (replaceIn (style state) (pattern state found) (pattern state replacement)) state
  | .raise everywhere =>
      let (found, state) ← expand .text operand state
      overText (recase (exactStyle state) (pattern state found) raiseCharacter everywhere) state
  | .lower everywhere =>
      let (found, state) ← expand .text operand state
      overText (recase (exactStyle state) (pattern state found) lowerCharacter everywhere) state
  | .swap everywhere =>
      let (found, state) ← expand .text operand state
      overText (recase (exactStyle state) (pattern state found) swapCase everywhere) state
  | .slice =>
      let (found, state) ← expand .text operand state
      let ((start, count), state) ← bounds (join found) state
      match values with
      | .one text =>
          match sliceText start count (decode state (text.getD [])) with
          | some part => show_ (.one (some (encode state part))) state
          | none => refuse .command (join found ++ ": substring expression < 0".toList) state
      | .many _ joined =>
          if count.any (· < 0) then
            refuse .command (join found ++ ": substring expression < 0".toList) state
          else
            let content := state.content name
            let texts := if content.isKeyed then sliceKeyed start count content.texts
              else sliceList start count (numberedElements name state)
            show_ (.many texts joined) state
  | .transform letter => show_ (transform letter name values state) state
  | .keys joined =>
      show_ (.many ((state.content name).entries.map Prod.fst) joined) state
  | .names joined =>
      let starting := state.bindings.filterMap fun entry =>
        if name.isPrefixOf entry.name ∧ entry.content ≠ .nothing then
          some (String.ofList entry.name)
        else none
      let sorted := starting.mergeSort fun first second => decide (first ≤ second)
      show_ (.many (sorted.map String.toList) joined) state
  | .invalid => refuse .command "bad substitution".toList state

/-- Whether an operation needs no values. -/
def isOfNames : Operation → Bool
  | .names _ | .keys _ | .invalid => true
  | _ => false

/-- The message for a name without a value. -/
def unboundWords (name : List Char) (state : State) : List Char :=
  if state.isBash then
    let shown := if name.all Char.isDigit then '$' :: name else name
    shown ++ ": unbound variable".toList
  else name ++ ": parameter not set".toList

/-- The path of the only redirection of a script that reads a file and does nothing else. -/
def readPath? (script : List Char) (state : State) : Option Word :=
  if !state.isBash ∨ (Arithmetic.skip script).head? ≠ some '<' then none
  else
    match Script.next (state.reading script) script with
    | .command (.sequence [.simple _ [] [] [redirection]]) rest =>
        if redirection.direction = .input ∧ rest.isEmpty then some redirection.target else none
    | _ => none

/-- The pieces of parts, unless the command or the script has to end. -/
def pieces (running : Running) :
    Nat → Purpose → List Part → State → Except Halt (List Piece × State)
  | 0, _, _, state => .error (.script, state)
  | fuel + 1, purpose, parts, state => do
      let mut state := state
      let mut found : List Piece := []
      for part in parts do
        match part with
        | .plain octets => found := .octets octets false :: found
        | .quoted octets => found := .octets octets true :: found
        | .substitution script whole =>
            let (text, after) ← match readPath? script state with
              | some path => do
                  let (inside, after) ← pieces running fuel .text path.parts state
                  match after.node? (join inside) with
                  | some (.file content _) =>
                      pure (ofBytes content, after.withStatus 0)
                  | some (.unreadable failure _) =>
                      pure ([], (after.complain
                        (join inside ++ ofText (": " ++ failure.words))).withStatus 1)
                  | _ =>
                      pure ([], (after.complain
                        (join inside ++ ": No such file or directory".toList)).withStatus 1)
              | none => pure (running.substitute script state)
            state := after
            let text := (text.reverse.dropWhile (· = '\n')).reverse
            found := Values.textPieces whole text state ++ found
        | .arithmetic expression whole =>
            let (inside, after) ← pieces running fuel .text expression state
            let (value, after) ← arithmetic (join inside) after
            state := after
            let text := ofInt value
            found := Values.textPieces whole text state ++ found
        | .process script isRead =>
            let (path, after) := running.process script isRead state
            state := after
            found := .octets path true :: found
        | .parameter subject operation operand whole =>
            let expand := pieces running fuel
            if isOfNames operation then
              let (inside, after) ← operate expand purpose subject.name subject.subscript
                (.one none) operation operand whole state
              state := after
              found := inside.reverse ++ found
            else
              let ((name, subscript, values), after) ← subjectValues (expand .text) subject state
              let isUnset : Bool := match values with
                | .one none => true
                | _ => false
              if after.has "nounset" ∧ isUnset ∧ !operation.allowsMissing then
                let shown := match subscript with
                  | some text => name ++ '[' :: text ++ [']']
                  | none => name
                throw (.script, after.complain (unboundWords shown after))
              let isAssigned : Bool := match operation with
                | .assign _ => true
                | _ => false
              if subject.indirect ∧ subscript.isSome ∧ isAssigned then
                let shown := name ++ '[' :: subscript.getD [] ++ "]: invalid variable name".toList
                throw (.command, after.complain shown)
              let (inside, after) ← operate expand purpose name subscript values operation
                operand whole after
              state := after
              found := inside.reverse ++ found
      return (found.reverse, state)

/-- How deeply operands may be nested. -/
def deepest : Nat := 200

/-- The pieces of parts that become a text. -/
def textPieces (running : Running) : Expand :=
  pieces running deepest .text

/-- The text of a word that is not split. -/
def text (running : Running) (word : Word) (state : State) : Except Halt (List Char × State) := do
  let (found, state) ← textPieces running (expandTilde state word.parts) state
  return (join found, state)

/-- The text of a line that a command reads. -/
def lineText (running : Running) (word : Word) (state : State) :
    Except Halt (List Char × State) := do
  let (found, state) ← pieces running deepest .value (expandTilde state word.parts) state
  return (join found, state)

/-- The text of a value for a name. -/
def valueText (running : Running) (word : Word) (state : State) :
    Except Halt (List Char × State) := do
  let (found, state) ← pieces running deepest .value (expandTildes state true word.parts) state
  return (join found, state)

/-- The pattern of a word. -/
def patternOf (running : Running) (word : Word) (state : State) :
    Except Halt (List Glyph × State) := do
  let (found, state) ← textPieces running (expandTilde state word.parts) state
  return (pattern state found, state)

/-- The octets of a field. -/
def fieldText (state : State) (field : List Glyph) : List Char :=
  encode state (field.map Prod.fst)

/-- The fields of parts. -/
def fieldsOf (running : Running) (parts : List Part) (state : State) :
    Except Halt (List (List Char) × State) := do
  let assigned := if state.isBash then expandAssigned state parts else parts
  let (found, state) ← pieces running deepest .fields (expandTilde state assigned) state
  let decoded := found.map fun
    | .octets text quoted => Piece.octets (decode state text) quoted
    | .value text => .value (decode state text)
    | .fields texts quoted between => .fields (texts.map (decode state)) quoted between
  let mut words : List (List (List Char)) := []
  for field in splitPieces state.dialect (decode state (separators state)) decoded do
    match Globbing.expand state field with
    | .words names => words := names :: words
    | .failed =>
        throw (.command, state.complain ("no match: ".toList ++ fieldText state field))
  return (words.reverse.flatten, state)

/-- The fields of words. -/
def fields (running : Running) (words : List Word) (state : State) :
    Except Halt (List (List Char) × State) := do
  let mut state := state
  let mut found : List (List (List Char)) := []
  for word in words do
    let multiplied :=
      if state.isBash ∧ state.has "braceexpand" then Braces.multiply word.text word.parts
      else [word.parts]
    for parts in multiplied do
      let (inside, after) ← fieldsOf running parts state
      state := after
      found := inside :: found
  return (found.reverse.flatten, state)

/-- What a list of values is given as. -/
structure Item where
  /-- The key or the number. -/
  key : Option (List Char)
  /-- Whether the value comes after the one that is there. -/
  append : Bool
  /-- The value. -/
  value : List Char

/-- The items of the elements of a list of values. -/
def items (running : Running) (name : List Char) (elements : List Element) (state : State) :
    Except Halt (List Item × State) := do
  let mut state := state
  let mut found : List (List Item) := []
  for element in elements do
    match element.subscript with
    | some text =>
        let (key, after) ← keyOf (textPieces running) name text state
        let (value, after) ← valueText running element.word after
        state := after
        found := [⟨some key, element.append, value⟩] :: found
    | none =>
        let (values, after) ← fields running [element.word] state
        state := after
        found := values.map (fun value => ⟨none, false, value⟩) :: found
  return (found.reverse.flatten, state)

/-- Keys and values by turns as items. -/
def paired : List Item → List Item
  | key :: value :: rest => ⟨some key.value, false, value.value⟩ :: paired rest
  | [key] => [⟨some key.value, false, []⟩]
  | [] => []

/-- Gives a list of values to a variable. -/
def assignItems (name : List Char) (append : Bool) (given : List Item) (state : State) :
    Except Halt (Unit × State) := do
  let (target, _) := state.resolve name
  let entry := state.binding? target
  if entry.any fun entry => entry.traits.readonly then
    refuse .command (target ++ ": readonly variable".toList) state
  else
    let content := (entry.map Variable.content).getD .nothing
    let isKeyed := content.isKeyed
    let start := match isKeyed, append with
      | true, true => content
      | true, false => .keyed []
      | false, true => .indexed content.numbered
      | false, false => .indexed []
    let mut state := state.setContent target start
    let given :=
      if isKeyed ∧ given.all fun item => item.key.isNone then paired given else given
    let mut next : Int := start.size
    for item in given do
      let key := item.key.getD (ofInt next)
      let ((), after) ← assign target (some key) item.append item.value state
      state := after
      if !isKeyed then next := (toInt? key).getD 0 + 1
    return ((), state)

end Expansion
end Shell
end Snippets
