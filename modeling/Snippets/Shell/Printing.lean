import Snippets.Shell.Command
import Snippets.Shell.Octets

/-!
# Commands as text

A command is written in the one way in which functions are shown: a line for each command,
and four spaces more for those inside of others.
-/

namespace Snippets
namespace Shell
namespace Printing

/-- Text with spaces before it. -/
def indented (depth : Nat) (text : List Char) : List Char :=
  List.replicate (4 * depth) ' ' ++ text

/-- A text with a semicolon, unless it ends in a sign that needs none. -/
def closed (text : List Char) : List Char :=
  if text.getLast? = some '&' ∨ text.getLast? = some '\n' then text else text ++ [';']

/-- An element of a list of values. -/
def element (element : Element) : List Char :=
  match element.subscript with
  | some key =>
      '[' :: key ++ [']'] ++ (if element.append then ['+', '='] else ['=']) ++ element.word.text
  | none => element.word.text

/-- A value for a name. -/
def assignment (assignment : Assignment) : List Char :=
  assignment.name ++
    (match assignment.subscript with
      | some key => '[' :: key ++ [']']
      | none => []) ++
    (if assignment.append then ['+', '='] else ['=']) ++
    (match assignment.given with
      | .one word => word.text
      | .many elements => '(' :: [' '].intercalate (elements.map element) ++ [')'])

/-- A redirection, and the lines that follow the line it is on. -/
def redirection (redirection : Redirection) : List Char × List Char :=
  let place := match redirection.place with
    | .number value => ofNat value
    | .named name => '\x7b' :: name ++ ['\x7d']
  let start := if redirection.isNumbered then place else []
  let target := redirection.target.text
  match redirection.direction with
  | .input => (start ++ "< ".toList ++ target, [])
  | .output => (start ++ "> ".toList ++ target, [])
  | .overwrite => (start ++ ">| ".toList ++ target, [])
  | .append => (start ++ ">> ".toList ++ target, [])
  | .both => (place ++ "<> ".toList ++ target, [])
  | .duplicate =>
      let sign := if redirection.place = .number 0 ∧ target ≠ ['-'] then "<&" else ">&"
      (place ++ sign.toList ++ target, [])
  | .hereLine => (start ++ "<<< ".toList ++ target, [])
  | .outputs => ("&> ".toList ++ target, [])
  | .outputsAppend => ("&>> ".toList ++ target, [])
  | .here =>
      let mark := target.takeWhile (· != '\n')
      let text := target.drop (mark.length + 1)
      let bare := mark.filter fun octet => !"'\"\\".toList.contains octet
      (start ++ '<' :: '<' :: mark, text ++ bare ++ ['\n'])

/-- A condition on words. -/
def test : Test → List Char
  | .word word => word.text
  | .unary sign word => sign.toList ++ ' ' :: word.text
  | .binary first sign second => first.text ++ ' ' :: sign.toList ++ ' ' :: second.text
  | .opposite inner => '!' :: ' ' :: test inner
  | .both first second => test first ++ " && ".toList ++ test second
  | .either first second => test first ++ " || ".toList ++ test second
  | .group inner => "( ".toList ++ test inner ++ " )".toList

/-- Redirections after a command. -/
def withRedirections (text : List Char) (redirections : List Redirection) : List Char :=
  let shown := redirections.map redirection
  let line := shown.foldl (fun text part => text ++ ' ' :: part.1) text
  let after := shown.flatMap Prod.snd
  if after.isEmpty then line else line ++ '\n' :: after

/-- Words with spaces between them. -/
def words (words : List Word) : List Char :=
  [' '].intercalate (words.map Word.text)

/-- The mark at the end of a case. -/
def ending : Ending → List Char
  | .stop => ";;".toList
  | .fallThrough => ";&".toList
  | .goOn => ";;&".toList

/-- A command, with a number of levels around it.  In a function, commands that follow each
other are on lines of their own.  The fuel bounds how deeply commands are nested. -/
def command (isInFunction : Bool) : Nat → Nat → Command → List Char
  | 0, _, _ => []
  | fuel + 1, depth, given =>
      let inside := fun inner : Command => command isInFunction fuel (depth + 1) inner
      let here := fun inner : Command => command isInFunction fuel depth inner
      let line := fun (text : String) => '\n' :: indented depth text.toList
      let block := fun (start : List Char) (body : Command) =>
        start ++ line "do" ++ '\n' :: indented (depth + 1) (closed (inside body)) ++ line "done"
      let overWords := fun (keyword : String) (name : List Char) (given : Option (List Word)) =>
        let list := match given with
          | some found => words found
          | none => "\"$@\"".toList
        keyword.toList ++ ' ' :: name ++ " in ".toList ++ list ++ [';']
      match given with
      | .simple _ assignments arguments redirections =>
          let texts := assignments.map assignment ++ arguments.map fun
            | .word word => word.text
            | .assignment given => assignment given
          withRedirections ([' '].intercalate texts) redirections
      | .pipeline negated commands =>
          (if negated then "! ".toList else []) ++ (" | ".toList).intercalate (commands.map here)
      | .timed isPortable inner =>
          (if isPortable then "time -p ".toList else "time ".toList) ++ here inner
      | .both first second => here first ++ " && ".toList ++ here second
      | .either first second => here first ++ " || ".toList ++ here second
      | .sequence commands =>
          let texts := commands.map here
          texts.zipIdx.foldl
            (fun text (next, index) =>
              if index = 0 then next
              else if text.getLast? = some '&' then text ++ ' ' :: next
              else if text.getLast? = some '\n' then text ++ indented depth next
              else if isInFunction then text ++ ";\n".toList ++ indented depth next
              else text ++ "; ".toList ++ next)
            []
      | .background inner => here inner ++ " &".toList
      | .subshell inner => "( ".toList ++ here inner ++ " )".toList
      | .group inner =>
          if !isInFunction then "\x7b ".toList ++ closed (here inner) ++ " \x7d".toList
          else "\x7b \n".toList ++ indented (depth + 1) (inside inner) ++ line "\x7d"
      | .redirected inner redirections => withRedirections (here inner) redirections
      | .branch condition first second =>
          "if ".toList ++ closed (here condition) ++ " then\n".toList ++
            indented (depth + 1) (closed (inside first)) ++
            (match second with
              | some other =>
                  line "else" ++ '\n' :: indented (depth + 1) (closed (inside other))
              | none => []) ++
            line "fi"
      | .loop opposite condition body =>
          (if opposite then "until " else "while ").toList ++ closed (here condition) ++
            " do\n".toList ++ indented (depth + 1) (closed (inside body)) ++ line "done"
      | .counted _ start condition step body =>
          let parts := [start, condition, step].map fun word => word.text
          block ("for ((".toList ++ ("; ".toList).intercalate parts ++ "))".toList) body
      | .each _ name given body => block (overWords "for" name given) body
      | .select _ name given body => block (overWords "select" name given) body
      | .choice _ word cases =>
          let shown := cases.flatMap fun entry =>
            '\n' :: indented (depth + 1)
              ((" | ".toList).intercalate (entry.1.map Word.text) ++ ")\n".toList) ++
              indented
                (if (command isInFunction fuel (depth + 2) entry.2.1).isEmpty then 0
                  else depth + 2)
                (command isInFunction fuel (depth + 2) entry.2.1) ++
              '\n' :: indented (depth + 1) (ending entry.2.2)
          "case ".toList ++ word.text ++ " in ".toList ++ shown ++ line "esac"
      | .define name body =>
          "function ".toList ++ name ++ " () \n".toList ++
            indented depth (command true fuel depth body)
      | .arithmetic _ expression => "((".toList ++ expression.text ++ "))".toList
      | .condition _ inner => "[[ ".toList ++ test inner ++ " ]]".toList

/-- How deeply commands are nested that are written. -/
def deepest : Nat := 1000

/-- A function. -/
def function (name : List Char) (body : Command) : List Char :=
  let isGroup := match body with
    | .group _ => true
    | .redirected (.group _) _ => true
    | _ => false
  let text := if isGroup then command true deepest 0 body
    else "\x7b \n".toList ++ indented 1 (command true deepest 1 body) ++ "\n\x7d".toList
  name ++ " () \n".toList ++ text ++ ['\n']

end Printing
end Shell
end Snippets
