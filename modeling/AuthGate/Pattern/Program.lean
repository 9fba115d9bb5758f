import AuthGate.Pattern.Basic

/-! Patterns as programs. Jumps are relative, so the program of a tree is made of the programs of its
parts wherever they stand. -/
namespace AuthGate.Pattern

inductive Instruction where
  | take (set : CharSet)
  | look (look : Look)
  | save (slot : Nat)
  | jump (offset : Int)
  | split (preferred other : Int)
  | accept
  deriving DecidableEq, Repr

/-- A choice between going on and leaving: the greedy one prefers to go on. -/
def choice (greedy : Bool) (onward away : Int) : Instruction :=
  if greedy then .split onward away else .split away onward

/-- Run a body at least once, and again as often as it is preferred. -/
def onceOrMore (greedy : Bool) (body : List Instruction) : List Instruction :=
  body ++ [choice greedy (-body.length) 1]

/-- Run a body at most once. -/
def atMostOnce (greedy : Bool) (body : List Instruction) : List Instruction :=
  choice greedy 1 (body.length + 1) :: body

/-- Run a body up to a number of times; leaving early skips all that remain. -/
def atMost (greedy : Bool) (body : List Instruction) : Nat → List Instruction
  | 0 => []
  | count + 1 => atMostOnce greedy (body ++ atMost greedy body count)

/-- Run a body any number of times. A body that may match nothing is tried once before it is
repeated, so that an empty match of it still counts. -/
def anyNumber (greedy nullable : Bool) (body : List Instruction) : List Instruction :=
  if nullable then atMostOnce greedy (onceOrMore greedy body)
  else choice greedy 1 (body.length + 2) :: (body ++ [.jump (-(body.length + 1))])

def times (body : List Instruction) (count : Nat) : List Instruction :=
  (List.replicate count body).flatten

def compile : Node → List Instruction
  | .empty => []
  | .set set => [.take set]
  | .look look => [.look look]
  | .concat left right => compile left ++ compile right
  | .alternate left right =>
    let first := compile left
    let second := compile right
    .split 1 (first.length + 2) :: (first ++ .jump (second.length + 1) :: second)
  | .group index body => .save (2 * index) :: (compile body ++ [.save (2 * index + 1)])
  | .repetition least most greedy body =>
    let code := compile body
    match most with
    | some most => times code least ++ atMost greedy code (most - least)
    | none =>
      if least = 0 then anyNumber greedy body.nullable code
      else times code (least - 1) ++ onceOrMore greedy code

/-- About how many bytes a set takes in an automaton over UTF-8. -/
def CharSet.weight : CharSet → Nat
  | .ranges table =>
    table.foldl (fun weight range => weight + if range.2 < 128 then 8 else 72) 32
  | .union left right | .intersection left right | .difference left right
  | .symmetricDifference left right => left.weight + right.weight
  | .complement set => 400 + set.weight
  | .anyCase set | .anyAsciiCase set => 2 * set.weight

/-- About how many bytes the automaton of a pattern takes. -/
def Node.weight : Node → Nat
  | .empty => 0
  | .set chars => chars.weight
  | .look _ => 32
  | .concat left right => left.weight + right.weight
  | .alternate left right => 40 + left.weight + right.weight
  | .group _ body => 64 + body.weight
  | .repetition least most _ body => (40 + body.weight) * max 1 (most.getD (least + 1))

end AuthGate.Pattern
