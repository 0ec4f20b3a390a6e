import Buildwatch.IoError
import Buildwatch.Output.Lines
import Buildwatch.Output.Blocks
import Buildwatch.Output.Source

/-!
# Reading blocks from a pipe

A reader turns the reads of one pipe into blocks. At the end of the pipe, and
also when a read fails, what is waiting is flushed first; the failure is reported
after that. An interrupted read is tried again.
-/

namespace Buildwatch

/-! ## Reads -/

variable {ε : Type}

/-- What one read from a pipe gives; no bytes mean the end of the pipe. -/
inductive Read (ε : Type)
  | data (bytes : List UInt8)
  /-- Nothing has arrived yet. -/
  | pending
  | failed (e : ε)
  deriving DecidableEq, Repr

/-- The most bytes that one read takes. -/
def readChunkSize : Nat := 8192

/-- Cuts bytes into chunks of at most `n + 1` bytes. -/
def chunksOf (n : Nat) (bytes : List UInt8) : List (List UInt8) :=
  match bytes with
  | [] => []
  | b :: bs => (b :: bs.take n) :: chunksOf n (bs.drop n)
termination_by bytes.length

/-- The reads in which what a pipe offers is taken: large data needs several. -/
def chunkedReads (offers : List (Read ε)) : List (Read ε) :=
  offers.flatMap fun
    | .data [] => [.data []]
    | .data bytes => (chunksOf (readChunkSize - 1) bytes).map .data
    | offer => [offer]

/-! ## The reader -/

inductive Reader (ε : Type)
  /-- The pipe is open: the reads to come, the blocks that are complete, and what
  is waiting for more input. -/
  | reading (source : List (Read ε)) (ready : List Text) (lines : LineSplitter)
      (blocks : BlockBuffer)
  /-- The pipe is at its end: the last blocks, and the failure that ended it. -/
  | ending (ready : List Text) (failure : Option ε)

namespace Reader

def ofReads (lines : LineSplitter) (source : List (Read ε)) : Reader ε :=
  .reading source [] lines {}

/-- Hands out the last blocks, then the failure, then the end. -/
def pollEnding : List Text → Option ε → Polled ε Text × Reader ε
  | block :: ready, failure => (.item block, .ending ready failure)
  | [], some e => (.failed e, .ending [] none)
  | [], none => (.ended, .ending [] none)

def flush (lines : LineSplitter) (blocks : BlockBuffer) (failure : Option ε) :
    Polled ε Text × Reader ε :=
  pollEnding (blocks.finish lines.takeRemainder.1) failure

variable [Interruptible ε]

/-- Reads until a block is complete, the pipe has nothing to offer, or it ends. -/
def advance (lines : LineSplitter) (blocks : BlockBuffer) :
    List (Read ε) → Polled ε Text × Reader ε
  | [] => flush lines blocks none
  | .pending :: source => (.pending, .reading source [] lines blocks)
  | .failed e :: source =>
    -- What waits is kept: the stream goes on as if nothing had been.
    if Interruptible.isInterrupted e then advance lines blocks source
    else flush lines blocks (some e)
  -- A read without bytes is the end of the pipe, whatever may come after it.
  | .data [] :: _ => flush lines blocks none
  | .data bytes :: source =>
    let (complete, lines) := lines.push bytes
    let (ready, blocks) := blocks.pushAll complete
    match ready with
    | [] => advance lines blocks source
    | block :: ready => (.item block, .reading source ready lines blocks)

def poll : Reader ε → Polled ε Text × Reader ε
  | .reading source (block :: ready) lines blocks =>
    (.item block, .reading source ready lines blocks)
  | .reading source [] lines blocks => advance lines blocks source
  | .ending ready failure => pollEnding ready failure

/-! ## Every reader ends -/

/-- The reads to come and one more for the end of the pipe, then the answers that
need no read. -/
def rank : Reader ε → Nat × Nat
  | .reading source ready _ _ => (source.length + 1, ready.length)
  | .ending ready failure => (0, ready.length + failure.toList.length)

omit [Interruptible ε] in
theorem rank_pollEnding (ready : List Text) (failure : Option ε) :
    (pollEnding ready failure).1 = .ended ∨
      (rank (pollEnding ready failure).2).1 = 0 ∧
        (rank (pollEnding ready failure).2).2 < ready.length + failure.toList.length := by
  cases ready <;> cases failure <;> simp [pollEnding, rank]

theorem rank_advance (lines : LineSplitter) (blocks : BlockBuffer) (source : List (Read ε)) :
    (rank (advance lines blocks source).2).1 < source.length + 1 := by
  have ends (lines : LineSplitter) (blocks : BlockBuffer) (failure : Option ε) :
      (rank (flush lines blocks failure).2).1 = 0 := by
    unfold flush
    generalize blocks.finish lines.takeRemainder.1 = ready
    cases ready <;> cases failure <;> rfl
  fun_induction advance lines blocks source <;> grind [rank]

theorem rank_poll (r : Reader ε) (h : r.poll.1 ≠ .ended) :
    Prod.Lex (· < ·) (· < ·) (rank r.poll.2) (rank r) := by
  match r with
  | .reading source (block :: ready) lines blocks =>
    exact Prod.Lex.right _ (Nat.lt_succ_self _)
  | .reading source [] lines blocks =>
    exact Prod.Lex.left _ _ (rank_advance lines blocks source)
  | .ending ready failure =>
    obtain h' | ⟨h₁, h₂⟩ := rank_pollEnding ready failure
    · exact absurd h' h
    · rw [show rank (poll (.ending ready failure)).2 = (0, _) from Prod.ext h₁ rfl]
      exact Prod.Lex.right _ h₂

instance : FiniteSource (Reader ε) ε Text where
  poll := poll
  Rank := Nat × Nat
  order := inferInstance
  rank := rank
  rank_poll := rank_poll

end Reader

end Buildwatch
