/-! Telling tasks to stop. A coordinator signals to all who subscribed. Only the last signal is kept,
and whoever misses others is told how many. -/
namespace AuthGate

/-- A subscriber, by the number of signals that were sent before the next one that it waits for. -/
structure Subscriber where
  next : Nat
  deriving DecidableEq, Repr

/-- Subscribers by number, as long as they are there, and the signals sent so far. -/
structure Shutdown where
  coordinated : Bool := true
  sent : Nat := 0
  subscribers : List (Option Subscriber) := []
  deriving DecidableEq, Repr

inductive ShutdownStep where
  | subscribe
  | trigger
  | receive (subscriber : Nat)
  | leave (subscriber : Nat)
  | retire
  deriving DecidableEq, Repr

inductive ShutdownAnswer where
  | joined (subscriber : Nat)
  | notified (count : Nat)
  | signal
  | nothing
  | closed
  | lagged (missed : Nat)
  | removed (found : Bool)
  | gone
  deriving DecidableEq, Repr

namespace Shutdown

def find? (state : Shutdown) (subscriber : Nat) : Option Subscriber :=
  (state.subscribers[subscriber]?).join

def put (state : Shutdown) (subscriber : Nat) (value : Option Subscriber) : Shutdown :=
  { state with subscribers := state.subscribers.set subscriber value }

/-- The subscribers that are still there. -/
def present (state : Shutdown) : Nat := (state.subscribers.filter (·.isSome)).length

/-- A signal that nobody could receive is not sent. -/
def trigger (state : Shutdown) : Shutdown :=
  if state.present = 0 then state else { state with sent := state.sent + 1 }

/-- Look for the next signal without waiting. The channel has room for one: whoever is behind by
more goes on to the last one. -/
def receive (state : Shutdown) (number : Nat) (subscriber : Subscriber) :
    Shutdown × ShutdownAnswer :=
  let pending := state.sent - subscriber.next
  if pending = 0 then (state, if state.coordinated then .nothing else .closed)
  else if pending = 1 then (state.put number (some ⟨subscriber.next + 1⟩), .signal)
  else (state.put number (some ⟨state.sent - 1⟩), .lagged (pending - 1))

def step (state : Shutdown) : ShutdownStep → Shutdown × ShutdownAnswer
  | .subscribe =>
    if state.coordinated then
      ({ state with subscribers := state.subscribers ++ [some ⟨state.sent⟩] },
        .joined state.subscribers.length)
    else (state, .gone)
  | .trigger =>
    if state.coordinated then (state.trigger, .notified state.present) else (state, .gone)
  | .receive number =>
    match state.find? number with
    | none => (state, .gone)
    | some subscriber => state.receive number subscriber
  | .leave number =>
    match state.find? number with
    | none => (state, .removed false)
    | some _ => (state.put number none, .removed true)
  | .retire => ({ state with coordinated := false }, .removed state.coordinated)

/-- The answers to a sequence of steps. -/
def run (state : Shutdown) : List ShutdownStep → List ShutdownAnswer
  | [] => []
  | step :: steps =>
    let (next, answer) := state.step step
    answer :: next.run steps

end Shutdown
end AuthGate
