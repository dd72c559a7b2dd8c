import Snippets.Text.Lowercase

/-!
# Language ids

A language goes by many tags and by one canonical id, the key under which its
runner is kept.  Tags are compared without regard to case.  A tag that is no
alias is its own id: whether a language can be run is decided by the registry.
-/

namespace Snippets
namespace Language

/-- The tags that stand for a language of another name. -/
def aliases : List (String × String) :=
  [("js", "javascript"), ("ts", "typescript"), ("py", "python"),
   ("sh", "shellscript"), ("bash", "shellscript"), ("zsh", "shellscript"),
   ("rb", "ruby"), ("rs", "rust"), ("c++", "cpp"), ("cxx", "cpp")]

/-- The language that a tag in lower case is an alias of. -/
def aliasTarget? (tag : String) : Option String :=
  aliases.lookup tag

/-- Whether a tag is an alias, in any case. -/
def isAlias (tag : String) : Bool :=
  (aliasTarget? (Text.lowercase tag)).isSome

/-- The canonical id of a tag. -/
def resolve (tag : String) : String :=
  let lower := Text.lowercase tag
  (aliasTarget? lower).getD lower

/-- The language of shell scripts, and of a fence without a tag. -/
def shellscript : String := "shellscript"

/-- The language of documents made of fenced blocks. -/
def markdown : String := "markdown"

/-- The language of a file whose name tells nothing. -/
def plaintext : String := "plaintext"

end Language
end Snippets
