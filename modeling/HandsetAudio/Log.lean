/-!
# The log

A bounded queue of lines: when it is full the oldest line makes room.
-/

namespace HandsetAudio

/-- The lines kept so far, oldest first. -/
structure Log where
  /-- At most `Log.capacity` lines. -/
  lines : List String := []
  deriving DecidableEq, Repr

namespace Log

/-- How many lines are kept. -/
def capacity : Nat := 256

/-- `lines` without its oldest entries beyond `n`. -/
def newest (n : Nat) (lines : List String) : List String := lines.drop (lines.length - n)

/-- The log after one more line. -/
def push (log : Log) (line : String) : Log := ⟨newest capacity (log.lines ++ [line])⟩

/-- The log after several more lines, in order. -/
def append (log : Log) (lines : List String) : Log := lines.foldl push log

/-- The oldest line, with the log that is left. -/
def pop? (log : Log) : Option (String × Log) :=
  match log.lines with
  | [] => none
  | line :: rest => some (line, ⟨rest⟩)

/-- Every line, and the empty log. -/
def drain (log : Log) : List String × Log := (log.lines, {})

end Log

end HandsetAudio
