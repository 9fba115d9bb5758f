import AuthGate.Pattern.Program

/-! Searching a text for the first match of a program. All threads advance together, one character
at a time, in order of preference; of the matches that start first, the preferred one wins. -/
namespace AuthGate.Pattern

/-- The places that have been saved, two for each group. -/
abbrev Slots := List (Option Nat)

structure Thread where
  counter : Nat
  slots : Slots

/-- The threads at one place, the preferred one last, and the instructions that they cover. -/
structure Frontier where
  threads : List Thread
  seen : Array Bool

def Frontier.start (size : Nat) : Frontier := ⟨[], Array.replicate size false⟩

/-- A place in the text: how many characters are before it, and its two neighbours. -/
structure Place where
  position : Nat
  before : Option Char
  behind : Option Char

/-- Follow instructions that take no character. An instruction is reached once at each place, by the
thread that prefers it most. -/
def follow (program : Array Instruction) (place : Place) :
    Nat → Nat → Slots → Frontier → Frontier
  | 0, _, _, frontier => frontier
  | fuel + 1, counter, slots, frontier =>
    if (frontier.seen[counter]?).getD true then frontier
    else
      let marked : Frontier := ⟨frontier.threads, frontier.seen.setIfInBounds counter true⟩
      let goTo (offset : Int) : Nat := ((counter : Int) + offset).toNat
      match program[counter]? with
      | none => marked
      | some (.take _) | some .accept => ⟨⟨counter, slots⟩ :: marked.threads, marked.seen⟩
      | some (.look look) =>
        if look.holds place.before place.behind then
          follow program place fuel (counter + 1) slots marked
        else marked
      | some (.save slot) =>
        follow program place fuel (counter + 1) (slots.set slot (some place.position)) marked
      | some (.jump offset) => follow program place fuel (goTo offset) slots marked
      | some (.split preferred other) =>
        follow program place fuel (goTo other) slots
          (follow program place fuel (goTo preferred) slots marked)

def reach (program : Array Instruction) (place : Place) (counter : Nat) (slots : Slots)
    (frontier : Frontier) : Frontier :=
  follow program place (program.size + 1) counter slots frontier

/-- Let threads take a character in order of preference. A thread that accepts ends the round, and
those that it is preferred to are dropped. -/
def advance (program : Array Instruction) (next : Place) (c : Option Char) :
    List Thread → Option Slots → Frontier → Option Slots × Frontier
  | [], best, frontier => (best, frontier)
  | thread :: threads, best, frontier =>
    match program[thread.counter]? with
    | some .accept => (some thread.slots, frontier)
    | some (.take set) =>
      let taken := (c.map set.contains).getD false
      advance program next c threads best
        (if taken then reach program next (thread.counter + 1) thread.slots frontier else frontier)
    | _ => advance program next c threads best frontier

/-- Go through the rest of a text. As long as nothing has matched, a new thread starts at every
place. -/
def scan (program : Array Instruction) (slots : Slots) (position : Nat) (before : Option Char)
    (best : Option Slots) (frontier : Frontier) : List Char → Option Slots
  | [] =>
    let place : Place := ⟨position, before, none⟩
    let entered := if best.isNone then reach program place 0 slots frontier else frontier
    (advance program place none entered.threads.reverse best (.start program.size)).1
  | c :: rest =>
    let place : Place := ⟨position, before, some c⟩
    let entered := if best.isNone then reach program place 0 slots frontier else frontier
    let next : Place := ⟨position + 1, some c, rest.head?⟩
    let (best, frontier) :=
      advance program next (some c) entered.threads.reverse best (.start program.size)
    if best.isSome && frontier.threads.isEmpty then best
    else scan program slots (position + 1) (some c) best frontier rest

/-- The slots of the first match in a text. -/
def search (program : Array Instruction) (groups : Nat) (text : List Char) : Option Slots :=
  scan program (List.replicate (2 * (groups + 1)) none) 0 none none (.start program.size) text

end AuthGate.Pattern
