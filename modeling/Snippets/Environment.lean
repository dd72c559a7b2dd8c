import Snippets.Files.Tree
import Snippets.Text.Quoted

/-!
# The environment of a command

What a command finds around it: a file tree, a working directory, and variables.
-/

namespace Snippets

/-- What surrounds a command. -/
structure Environment where
  /-- The files. -/
  tree : FileTree
  /-- The names from the root to the working directory. -/
  workingDirectory : List String
  /-- The values of variables. -/
  bindings : List (String × String)

/-- Why the state of a path cannot be told. -/
inductive PathFailure where
  /-- The path is longer than a file system allows. -/
  | tooLong
  /-- The path starts with the name of a user who is not known. -/
  | unknownUser
  deriving DecidableEq, Repr

/-- What is told of a failure to read the file at a path.  The path is named if the file was not
opened. -/
def ReadFailure.text (path : Path) : ReadFailure → String
  | refused => "[Errno 13] " ++ refused.words ++ ": " ++ Text.quoted path.text
  | broken => "[Errno 5] " ++ broken.words

namespace Environment

/-- The value of a variable. -/
def valueOf? (environment : Environment) (name : String) : Option String :=
  environment.bindings.lookup name

/-- The node at the end of a path, if there is one.  A path that is too long has no
answer. -/
def node? (environment : Environment) (path : Path) :
    Except PathFailure (Option FileNode) :=
  match environment.tree.lookup environment.workingDirectory path.text with
  | .ok node => .ok (some node)
  | .error .tooLong => .error .tooLong
  | .error _ => .ok none

/-- The working directory as a path. -/
def here (environment : Environment) : Path :=
  ⟨"/", environment.workingDirectory⟩

/-- The users that every system has, with their home directories. -/
def users : List (String × String) :=
  [("root", "/root"), ("daemon", "/usr/sbin"), ("bin", "/bin"), ("sys", "/dev"),
   ("sync", "/bin"), ("games", "/usr/games"), ("man", "/var/cache/man"),
   ("lp", "/var/spool/lpd"), ("mail", "/var/mail"), ("news", "/var/spool/news"),
   ("uucp", "/var/spool/uucp"), ("proxy", "/bin"), ("www-data", "/var/www"),
   ("backup", "/var/backups"), ("list", "/var/list"), ("irc", "/run/ircd"),
   ("_apt", "/nonexistent"), ("nobody", "/nonexistent")]

/-- A text without slashes at its end, or one slash if there is nothing else. -/
def trimSlashes (text : String) : String :=
  let kept := (text.toList.reverse.dropWhile (· = '/')).reverse
  if kept = [] then "/" else String.ofList kept

/-- The home directory that the first name of a path, without its tilde, stands for.  One
that starts with a tilde itself is none. -/
def home? (environment : Environment) (user : String) : Option String :=
  if user = "" then
    let home := trimSlashes ((environment.valueOf? "HOME").getD "/root")
    if home.toList.head? = some '~' then none else some home
  else users.lookup user

/-- A path with the home directory in place of a first name that starts with a
tilde. -/
def expandHome (environment : Environment) (path : Path) : Except PathFailure Path :=
  match path.names with
  | name :: rest =>
      if path.root = "" ∧ name.toList.head? = some '~' then
        match environment.home? (String.ofList (name.toList.drop 1)) with
        | some home =>
            let base := Path.ofText home
            .ok ⟨base.root, base.names ++ rest⟩
        | none => .error .unknownUser
      else .ok path
  | [] => .ok path

/-- The absolute path without dots that a path stands for. -/
def resolve (environment : Environment) (path : Path) : Path :=
  ⟨"/", Path.collapse ((environment.here.append path).names)⟩

end Environment
end Snippets
