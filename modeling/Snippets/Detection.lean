import Snippets.Fence
import Snippets.Section

/-!
# Finding the blocks of a document

The kind of a document decides how its blocks are found.  Nothing is remembered
between two searches.
-/

namespace Snippets
namespace Document

/-- The runnable blocks of a document in order, given which languages can be
run. -/
def blocks (document : Document) (isSupported : String → Bool) : List Block :=
  match document.kind with
  | .tagged => Fence.blocks isSupported document.lines
  | .plain => Section.blocks isSupported document.language document.lines

end Document
end Snippets
