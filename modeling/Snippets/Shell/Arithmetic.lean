import Snippets.Shell.Arithmetic.Extended
import Snippets.Shell.Arithmetic.Plain

/-!
# Arithmetic

Each shell has its own rules for expressions.
-/

namespace Snippets
namespace Shell
namespace Arithmetic

/-- The value of the expression in a text, and the state that it leaves. -/
def valueOfText (text : List Char) (state : State) : Valued :=
  match state.dialect with
  | .bash => Extended.evaluate text state
  | .plain => Plain.evaluate text state

end Arithmetic
end Shell
end Snippets
