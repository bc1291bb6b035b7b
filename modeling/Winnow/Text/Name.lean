import Winnow.Text.Basic

/-!
# Bare names

Names that need no quotes in a query: ASCII letters, digits and underscores, no digit first.
-/

namespace Winnow.Text

/-- Whether a character may start a bare name. -/
def isNameStart (c : CodePoint) : Bool := c.isAlpha || c = '_'

/-- Whether a character may follow in a bare name. -/
def isNameChar (c : CodePoint) : Bool := c.isAlphanum || c = '_'

/-- Whether a text is a bare name. -/
def isBareName : List CodePoint → Bool
  | [] => false
  | c :: rest => isNameStart c && rest.all isNameChar

end Winnow.Text
