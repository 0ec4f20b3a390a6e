/-!
# Errors of the system

What the system answers when it refuses something: the kind of the error, as far as the program
tells kinds apart, and the words in which the error is reported.
-/

namespace Buildwatch

inductive IoErrorKind
  | notFound
  | permissionDenied
  | interrupted
  /-- Any other kind, which only its words tell. -/
  | other
  deriving DecidableEq, Repr

structure IoError where
  kind : IoErrorKind
  reason : String
  deriving DecidableEq, Repr

/-- Errors among which some only say that an operation is to be tried again. -/
class Interruptible (ε : Type) where
  isInterrupted : ε → Bool

instance : Interruptible IoError := ⟨fun e => e.kind = .interrupted⟩

end Buildwatch
