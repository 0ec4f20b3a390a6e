import Buildwatch.Text.Basic

/-!
# Quoted command lines

A command is shown as one line that a shell would read back as the same words. A
word of plain characters stands as it is. Any other word goes between single
quotes; a quote or an exclamation mark inside it leaves the quotes and is escaped
by a backslash.
-/

namespace Buildwatch.Quoted

/-! ## Writing -/

/-- Whether the character needs no quotes. -/
def isPlain (c : Char) : Bool := c.isAlphanum || "-_=/,.+".toList.contains c

/-- Whether the character is escaped outside the quotes. -/
def isEscaped (c : Char) : Bool := c == '\'' || c == '!'

/-- The text between the quotes. -/
def escape (word : Text) : Text :=
  word.flatMap fun c => if isEscaped c then ['\'', '\\', c, '\''] else [c]

/-- The written form of a word. -/
def word (w : Text) : Text :=
  if w ≠ [] ∧ w.all isPlain then w else '\'' :: escape w ++ ['\'']

/-- The written form of a list of words. -/
def line : List Text → Text
  | [] => []
  | [w] => word w
  | w :: ws => word w ++ ' ' :: line ws

/-! ## Reading -/

/-- Whether the character ends a word outside of quotes. -/
def isSeparator (c : Char) : Bool := c == ' ' || c == '\t' || c == '\n'

/-- Where a reader of a command line stands. -/
inductive State
  /-- Between words. -/
  | blank
  /-- In a word, outside quotes; the characters read so far, the latest first. -/
  | bare (read : Text)
  /-- After a backslash, in a word or between words. -/
  | escaped (read : Option Text)
  /-- Between single quotes. -/
  | quoted (read : Text)
  deriving DecidableEq, Repr

/-- Reads the words of a line by the rules of a POSIX shell for blanks, single
quotes and backslashes; none if a quote stays open. A backslash and a newline after it
count as nothing. -/
def wordsFrom? : State → Text → Option (List Text)
  | .blank, [] => some []
  | .bare read, [] => some [read.reverse]
  | .escaped _, [] | .quoted _, [] => none
  | .blank, c :: t =>
    if isSeparator c then wordsFrom? .blank t
    else if c = '\'' then wordsFrom? (.quoted []) t
    else if c = '\\' then wordsFrom? (.escaped none) t
    else wordsFrom? (.bare [c]) t
  | .bare read, c :: t =>
    if isSeparator c then (wordsFrom? .blank t).map (read.reverse :: ·)
    else if c = '\'' then wordsFrom? (.quoted read) t
    else if c = '\\' then wordsFrom? (.escaped (some read)) t
    else wordsFrom? (.bare (c :: read)) t
  | .escaped none, c :: t =>
    if c = '\n' then wordsFrom? .blank t else wordsFrom? (.bare [c]) t
  | .escaped (some read), c :: t =>
    if c = '\n' then wordsFrom? (.bare read) t else wordsFrom? (.bare (c :: read)) t
  | .quoted read, c :: t =>
    if c = '\'' then wordsFrom? (.bare read) t else wordsFrom? (.quoted (c :: read)) t

/-- Reads the words of a line. -/
def words? (t : Text) : Option (List Text) := wordsFrom? .blank t

end Buildwatch.Quoted
