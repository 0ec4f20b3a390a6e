/-!
# Cancellation

A token is fired once, from outside, and stays so. The library only looks at it, so
the moment at which it fires is the number of looks before that.
-/

namespace Buildwatch

/-- A token that fires after a number of looks, or never. -/
inductive Token
  | never
  | after (looks : Nat)
  deriving DecidableEq, Repr

namespace Token

/-- A token that has fired. -/
def fired : Token := .after 0

/-- Whether the token has fired by now. -/
def isFired : Token → Bool
  | .after 0 => true
  | _ => false

/-- Looks at the token: whether it has fired, and the token from then on. -/
def look : Token → Bool × Token
  | .never => (false, .never)
  | .after 0 => (true, .after 0)
  | .after (n + 1) => (false, .after n)

end Token

end Buildwatch
