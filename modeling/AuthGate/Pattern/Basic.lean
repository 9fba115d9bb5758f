import AuthGate.Pattern.CharSet

namespace AuthGate.Pattern

/-- A condition on the place between two characters. -/
inductive Look where
  | textStart
  | textEnd
  | lineStart (carriageReturn : Bool)
  | lineEnd (carriageReturn : Bool)
  | wordBoundary (unicode : Bool)
  | noWordBoundary (unicode : Bool)
  | wordStart (unicode : Bool)
  | wordEnd (unicode : Bool)
  | wordStartHalf (unicode : Bool)
  | wordEndHalf (unicode : Bool)
  deriving DecidableEq, Repr

inductive Node where
  | empty
  | set (set : CharSet)
  | look (look : Look)
  | concat (left right : Node)
  | alternate (left right : Node)
  | group (index : Nat) (body : Node)
  | repetition (least : Nat) (most : Option Nat) (greedy : Bool) (body : Node)
  deriving DecidableEq, Repr

namespace Node

/-- A match may be empty. -/
def nullable : Node → Bool
  | .empty => true
  | .set _ => false
  | .look _ => true
  | .concat left right => left.nullable && right.nullable
  | .alternate left right => left.nullable || right.nullable
  | .group _ body => body.nullable
  | .repetition least _ _ body => least == 0 || body.nullable

/-- Every match is empty. -/
def alwaysEmpty : Node → Bool
  | .empty => true
  | .set _ => false
  | .look _ => true
  | .concat left right => left.alwaysEmpty && right.alwaysEmpty
  | .alternate left right => left.alwaysEmpty && right.alwaysEmpty
  | .group _ body => body.alwaysEmpty
  | .repetition _ most _ body => most == some 0 || body.alwaysEmpty

def concatAll : List Node → Node
  | [] => .empty
  | [node] => node
  | node :: nodes => .concat node (concatAll nodes)

def alternateAll : List Node → Node
  | [] => .empty
  | [node] => node
  | node :: nodes => .alternate node (alternateAll nodes)

end Node

/-- A condition holds between the character before a place and the one behind it. -/
def Look.holds (look : Look) (before behind : Option Char) : Bool :=
  let isWord (unicode : Bool) (c : Option Char) : Bool :=
    (c.map (CharSet.wordChars unicode).contains).getD false
  match look with
  | .textStart => before.isNone
  | .textEnd => behind.isNone
  | .lineStart false => before.isNone || before == some '\n'
  | .lineStart true =>
    before.isNone || before == some '\n' || (before == some '\r' && behind != some '\n')
  | .lineEnd false => behind.isNone || behind == some '\n'
  | .lineEnd true =>
    behind.isNone || behind == some '\r' || (behind == some '\n' && before != some '\r')
  | .wordBoundary unicode => isWord unicode before != isWord unicode behind
  | .noWordBoundary unicode => isWord unicode before == isWord unicode behind
  | .wordStart unicode => !isWord unicode before && isWord unicode behind
  | .wordEnd unicode => isWord unicode before && !isWord unicode behind
  | .wordStartHalf unicode => !isWord unicode before
  | .wordEndHalf unicode => !isWord unicode behind

end AuthGate.Pattern
