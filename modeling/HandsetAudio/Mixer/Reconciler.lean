import HandsetAudio.Mixer.Basic

/-!
# Keeping a control table converged

A `Reconciler` remembers, for every row of a table, whether the row was last written on
and which control of the mixer it stands for. `converge` writes only what changed:

1. The rows are settled back to front. A row that must go off is written at once;
   one that must come on is only marked.
2. The marked rows are written front to back.

So everything further along the path is muted before anything ahead of it changes, and
unmuted only after its sources are in place. A row is resolved to a control the first
time it has to be written, and never again before the next `reset`; a row that cannot be
resolved is inert: it is skipped and reported once. Refused writes are ignored, a row
counts as written all the same.
-/

namespace HandsetAudio

/-- Why a row could not be resolved. -/
inductive Mismatch where
  | noControl
  /-- A choice was named for a control without choices. -/
  | notAChoice (choice : String)
  | unknownChoice (choice : String)
  deriving DecidableEq, Repr

def Mismatch.message : Mismatch → String
  | .noControl => "no such control"
  | .notAChoice choice => "'" ++ choice ++ "' set on a non-enum control"
  | .unknownChoice choice => "invalid enum '" ++ choice ++ "'"

/-- What a row stands for on the mixer. -/
inductive Resolution where
  | pending
  /-- A control, and the value that switches it on. -/
  | ready (id : ControlId) (value : Int)
  /-- Nothing; the row is skipped for good. -/
  | inert
  deriving DecidableEq, Repr

/-- A row that could not be resolved. -/
structure Skip where
  name : String
  reason : Mismatch
  deriving DecidableEq, Repr

/-- The line that reports a skipped row. -/
def Skip.message (s : Skip) : String :=
  "mixer ctl '" ++ s.name ++ "' skipped: " ++ s.reason.message

/-- The control of a row and the value that switches it on. -/
def ControlRule.resolve (rule : ControlRule) (m : Mixer) : Except Mismatch (ControlId × Int) :=
  match m.find? rule.name with
  | none => .error .noControl
  | some id =>
    match rule.target with
    | .level value => .ok (id, value)
    | .choice choice =>
      match m.controls[id]? with
      | none => .error .noControl
      | some c =>
        if c.kind ≠ .choice then .error (.notAChoice choice)
        else
          match c.choices.findIdx? (· == choice) with
          | none => .error (.unknownChoice choice)
          | some i => .ok (id, i)

/-- A row with what is remembered of it. -/
structure Tracked where
  rule : ControlRule
  /-- Whether it was last written on. -/
  applied : Bool := false
  /-- What it stands for. -/
  resolution : Resolution := .pending
  deriving DecidableEq, Repr

namespace Tracked

/-- The row as nothing is remembered of it. -/
def forget (t : Tracked) : Tracked := { rule := t.rule }

/-- The row after its first use: resolved, or inert with the reason. -/
def resolve (t : Tracked) (m : Mixer) : Tracked × List Skip :=
  match t.resolution with
  | .pending =>
    match t.rule.resolve m with
    | .ok (id, value) => ({ t with resolution := .ready id value }, [])
    | .error reason => ({ t with resolution := .inert }, [⟨t.rule.name, reason⟩])
  | _ => (t, [])

/-- Whether a pass leaves the row as it is. -/
def settled (t : Tracked) (desired : Bool) : Bool :=
  desired == t.applied || (t.rule.once && (t.applied || !desired))

end Tracked

/-- The first half of a pass over some rows. -/
structure Settled where
  /-- The rows, each with a mark if it must be written on. -/
  rows : List (Tracked × Bool)
  /-- The mixer, with every row off that had to go off. -/
  mixer : Mixer
  /-- How many rows were written off. -/
  released : Nat := 0
  /-- Rows that turned out inert, in the order in which they were found. -/
  skips : List Skip := []

/-- The result of a pass. -/
structure Pass where
  rows : List Tracked
  mixer : Mixer
  /-- How many rows were written off. -/
  released : Nat
  /-- How many rows were written on. -/
  asserted : Nat
  /-- Rows that turned out inert. -/
  skips : List Skip

namespace Tracked

/-- Brings one row to the state `desired`, after the rows behind it were settled. -/
def write (t : Tracked) (desired : Bool) (rest : Settled) : Settled :=
  let (t', skips) := t.resolve rest.mixer
  match t'.resolution with
  | .ready id _ =>
    if desired then
      { rest with rows := ({ t' with applied := true }, true) :: rest.rows,
                  skips := rest.skips ++ skips }
    else
      { rows := ({ t' with applied := false }, false) :: rest.rows
        mixer := rest.mixer.setAll id 0
        released := rest.released + 1
        skips := rest.skips ++ skips }
  | _ => { rest with rows := (t', false) :: rest.rows, skips := rest.skips ++ skips }

/-- Settles rows back to front under `facts`. -/
def settle (facts : Facts) (m : Mixer) : List Tracked → Settled
  | [] => { rows := [], mixer := m }
  | t :: ts =>
    let rest := settle facts m ts
    let desired := t.rule.desired facts
    if t.settled desired then { rest with rows := (t, false) :: rest.rows }
    else t.write desired rest

/-- Settles rows back to front so that every row that is not set once goes off. -/
def settleOff (m : Mixer) : List Tracked → Settled
  | [] => { rows := [], mixer := m }
  | t :: ts =>
    let rest := settleOff m ts
    if t.rule.once then { rest with rows := (t, false) :: rest.rows } else t.write false rest

/-- Writes the marked rows on, front to back, and counts them. -/
def assertMarked (m : Mixer) : List (Tracked × Bool) → Nat × Mixer
  | [] => (0, m)
  | (t, marked) :: rest =>
    match marked, t.resolution with
    | true, .ready id value =>
      let (n, m') := assertMarked (m.setAll id value) rest
      (n + 1, m')
    | _, _ => assertMarked m rest

/-- One pass: settle, then write the marked rows on. -/
def pass (facts : Facts) (m : Mixer) (ts : List Tracked) : Pass :=
  let s := settle facts m ts
  let (asserted, m') := assertMarked s.mixer s.rows
  { rows := s.rows.map (·.1), mixer := m', released := s.released, asserted, skips := s.skips }

/-- The pass of a reset: forget everything, then write every row off that is not set
once. -/
def resetPass (m : Mixer) (ts : List Tracked) : Pass :=
  let s := settleOff m (ts.map forget)
  { rows := s.rows.map (·.1), mixer := s.mixer, released := s.released, asserted := 0
    skips := s.skips }

end Tracked

/-- A control table with what is remembered of its rows. -/
structure Reconciler where
  path : Path
  rows : List Tracked
  deriving DecidableEq, Repr

/-- What a reconciler shows of one row. -/
structure ControlStatus where
  name : String
  /-- Whether it was last written on. -/
  applied : Bool
  /-- Whether it is skipped for good. -/
  inert : Bool
  deriving DecidableEq, Repr

namespace Reconciler

/-- A reconciler over `table` that remembers nothing. -/
def ofTable (path : Path) (table : List ControlRule) : Reconciler :=
  { path, rows := table.map fun rule => { rule } }

/-- A reconciler over the table of `path`. -/
def ofPath (path : Path) : Reconciler := ofTable path path.table

/-- Brings the mixer in line with `facts`. -/
def converge (r : Reconciler) (facts : Facts) (m : Mixer) : Pass × Reconciler :=
  let p := Tracked.pass facts m r.rows
  (p, { r with rows := p.rows })

/-- Forgets everything and writes every row off that is not set once. -/
def reset (r : Reconciler) (m : Mixer) : Pass × Reconciler :=
  let p := Tracked.resetPass m r.rows
  (p, { r with rows := p.rows })

/-- What the reconciler remembers, in table order. -/
def snapshot (r : Reconciler) : List ControlStatus :=
  r.rows.map fun t => { name := t.rule.name, applied := t.applied, inert := t.resolution = .inert }

end Reconciler

end HandsetAudio
