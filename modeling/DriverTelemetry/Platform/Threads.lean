/-!
# Thread table

The threads that a platform has started, by handle. Handles are counted from 1 and belong to the
table until the thread is joined or detached. A thread either ends by itself, ends by panicking, or
waits for a signal that the whole table shares; whatever it does, it takes a moment to end
(`ThreadTable.settle`).
-/

namespace DriverTelemetry

/-- What a thread does. -/
inductive ThreadBody where
  | quick
  | waiting
  | panicking
  deriving DecidableEq

def ThreadBody.ofName? : String → Option ThreadBody
  | "quick" => some .quick
  | "wait" => some .waiting
  | "panic" => some .panicking
  | _ => none

/-- The threads of a platform. -/
structure ThreadTable where
  next : Nat := 1
  handles : List Nat := []
  /-- The threads that are running, with what they do, whether in the table or detached. -/
  running : List (Nat × ThreadBody) := []
  signalled : Bool := false
  completed : Nat := 0
  deriving DecidableEq

namespace ThreadTable

/-- Starts a thread; answers its handle. -/
def spawn (t : ThreadTable) (body : ThreadBody) : Nat × ThreadTable :=
  (t.next,
    { t with
      next := t.next + 1
      handles := t.next :: t.handles
      running := (t.next, body) :: t.running })

def signal (t : ThreadTable) : ThreadTable := { t with signalled := true }

def isDue (t : ThreadTable) : ThreadBody → Bool
  | .quick | .panicking => true
  | .waiting => t.signalled

/-- Lets a moment pass: every thread that is due ends, and those that did not panic count. -/
def settle (t : ThreadTable) : ThreadTable :=
  let (ended, running) := t.running.partition fun (_, body) => t.isDue body
  { t with running, completed := t.completed + ended.countP (·.2 != .panicking) }

def isRunning (t : ThreadTable) (handle : Nat) : Bool :=
  t.handles.contains handle && t.running.any (·.1 == handle)

/-- Takes a handle out of the table. The thread goes on by itself. -/
def detach (t : ThreadTable) (handle : Nat) : ThreadTable :=
  { t with handles := t.handles.filter (· != handle) }

/-- Waits for a thread to end. A thread that has ended, or that was never in the table, is joined
without waiting; any other is given a moment, if there is time for one. A thread that has been
joined leaves the table. -/
def join (t : ThreadTable) (handle timeoutMs : Nat) : Bool × ThreadTable :=
  let t := if t.isRunning handle ∧ 0 < timeoutMs then t.settle else t
  if t.isRunning handle then (false, t) else (true, t.detach handle)

end ThreadTable

/-- Small numbers for threads, given out when a thread first asks. -/
structure ThreadIds where
  known : List String := []

/-- The number of a thread: the one it was given before, else the next. -/
def ThreadIds.ask (ids : ThreadIds) (thread : String) : Nat × ThreadIds :=
  match ids.known.findIdx? (· == thread) with
  | some i => (i + 1, ids)
  | none => (ids.known.length + 1, { known := ids.known ++ [thread] })

end DriverTelemetry
