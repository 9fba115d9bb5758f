import AuthGate.Pattern.Basic
import AuthGate.Unicode.Printable

namespace AuthGate.Pattern
open Text Unicode

/-- Options that a pattern switches on and off for the rest of a group. -/
structure Flags where
  ignoreCase : Bool := false
  multiLine : Bool := false
  dotAll : Bool := false
  swapGreed : Bool := false
  unicode : Bool := true
  carriageReturn : Bool := false
  spaced : Bool := false
  deriving DecidableEq, Repr

namespace Flags

/-- Switch the option of a letter. -/
def set (flags : Flags) (letter : Char) (on : Bool) : Flags :=
  match letter with
  | 'i' => { flags with ignoreCase := on }
  | 'm' => { flags with multiLine := on }
  | 's' => { flags with dotAll := on }
  | 'U' => { flags with swapGreed := on }
  | 'u' => { flags with unicode := on }
  | 'R' => { flags with carriageReturn := on }
  | 'x' => { flags with spaced := on }
  | _ => flags

/-- Read option letters up to the character that ends them; no letter occurs twice, and a hyphen
switches off the letters behind it. -/
def read (seen : List Char) (flags : Flags) : List Char → Option (Flags × List Char × List Char)
  | [] => none
  | c :: rest =>
    if c = ':' || c = ')' then
      if seen.head? == some '-' then none else some (flags, seen, c :: rest)
    else if seen.contains c || !"imsUuRx-".toList.contains c then none
    else if c = '-' then read (c :: seen) flags rest
    else read (c :: seen) (flags.set c (!seen.contains '-')) rest

/-- Skip blanks and comments where the pattern is written with space. -/
def skip (flags : Flags) (text : List Char) : List Char :=
  if flags.spaced then go false text else text
where
  go (comment : Bool) : List Char → List Char
    | [] => []
    | c :: rest =>
      if comment then go (c != '\n') rest
      else if c = '#' then go true rest
      else if isBlank c then go false rest
      else c :: rest

end Flags

/-- What an escape stands for. -/
inductive Escape where
  | literal (c : Char)
  | set (set : CharSet)
  | look (look : Look)

def isMeta (c : Char) : Bool := "\\.+*?()|[]\x7b\x7d^$#&-~".toList.contains c

def isEscapeable (c : Char) : Bool :=
  isMeta c || (isAscii c && !isAlphanum c && c != '<' && c != '>')

def charOf? (code : Nat) : Option Char :=
  if h : code.isValidChar then some (Char.ofNatAux code h) else none

/-- A fixed number of digits in base sixteen. -/
def hexFixed (flags : Flags) : Nat → Nat → List Char → Option (Char × List Char)
  | 0, value, rest => (charOf? value).map (·, flags.skip rest)
  | count + 1, value, rest =>
    match flags.skip rest with
    | [] => none
    | c :: rest => (hexValue? c).bind fun digit => hexFixed flags count (16 * value + digit) rest

/-- The characters up to a closing brace. -/
def braced (flags : Flags) : List Char → Option (List Char × List Char)
  | [] => none
  | c :: rest =>
    if flags.spaced && isBlank c then braced flags rest
    else if c = '\x7d' then some ([], rest)
    else (braced flags rest).map fun (inside, behind) => (c :: inside, behind)

/-- A character given by its number, behind the letter that says how many digits it has. -/
def hexEscape (flags : Flags) (digits : Nat) (rest : List Char) : Option (Char × List Char) :=
  match flags.skip rest with
  | [] => none
  | '\x7b' :: rest => do
    let (inside, behind) ← braced flags rest
    let c ← (digitsValue? 16 inside).bind charOf?
    return (c, flags.skip behind)
  | rest => hexFixed flags digits 0 rest

/-- A class named by a property, behind its letter. -/
def propertyEscape (flags : Flags) (rest : List Char) : Option (CharSet × List Char) :=
  match flags.skip rest with
  | [] => none
  | '\x7b' :: rest => do
    let (inside, behind) ← braced flags rest
    let set ← match splitFirst (fun c => c == ':' || c == '=') inside with
      | (name, some value) =>
        if name.getLast? = some '!' then (CharSet.valued? name.dropLast value).map .complement
        else CharSet.valued? name value
      | (name, none) => CharSet.property? name
    return (set, behind)
  | '\\' :: _ => none
  | c :: rest => (CharSet.property? [c]).map (·, flags.skip rest)

/-- A kind of boundary between words that is named in braces, if a name stands there. -/
def boundaryName (flags : Flags) (rest : List Char) : Option (Option (Look × List Char)) :=
  match rest with
  | '\x7b' :: inside =>
    match flags.skip inside with
    | [] => none
    | c :: _ =>
      if !(isAlpha c || c == '-') then some none
      else do
        let (name, behind) ← braced flags inside
        let look ← match String.ofList name with
          | "start" => some (Look.wordStart flags.unicode)
          | "end" => some (.wordEnd flags.unicode)
          | "start-half" => some (.wordStartHalf flags.unicode)
          | "end-half" => some (.wordEndHalf flags.unicode)
          | _ => none
        return some (look, behind)
  | _ => some none

/-- Fold and complement a class as the options ask. Without Unicode a class stays within ASCII. -/
def finishSet (flags : Flags) (negated : Bool) (set : CharSet) : CharSet :=
  let folded :=
    if !flags.ignoreCase then set else if flags.unicode then .anyCase set else .anyAsciiCase set
  if negated then .complement folded else folded

/-- A class for bytes must not hold any beyond ASCII. -/
def inBounds (flags : Flags) (set : CharSet) : Bool :=
  flags.unicode || ((List.range 128).all fun i => !set.containsCode (128 + i))

/-- Read an escape behind its backslash. -/
def readEscape (flags : Flags) : List Char → Option (Escape × List Char)
  | [] => none
  | c :: rest =>
    let word (negated : Bool) (set : CharSet) : Option (Escape × List Char) :=
      some (.set (if negated then .complement set else set), rest)
    match c with
    | 'x' => (hexEscape flags 2 rest).map fun (c, behind) => (.literal c, behind)
    | 'u' => (hexEscape flags 4 rest).map fun (c, behind) => (.literal c, behind)
    | 'U' => (hexEscape flags 8 rest).map fun (c, behind) => (.literal c, behind)
    | 'p' | 'P' =>
      if !flags.unicode then none
      else (propertyEscape flags rest).map fun (set, behind) =>
        (.set (finishSet flags (c == 'P') set), behind)
    | 'd' | 'D' => word (c == 'D') (.digits flags.unicode)
    | 's' | 'S' => word (c == 'S') (.blanks flags.unicode)
    | 'w' | 'W' => word (c == 'W') (.wordChars flags.unicode)
    | 'a' => some (.literal '\x07', rest)
    | 'f' => some (.literal '\x0c', rest)
    | 't' => some (.literal '\t', rest)
    | 'n' => some (.literal '\n', rest)
    | 'r' => some (.literal '\r', rest)
    | 'v' => some (.literal '\x0b', rest)
    | 'A' => some (.look .textStart, rest)
    | 'z' => some (.look .textEnd, rest)
    | 'b' =>
      (boundaryName flags rest).map fun
        | some (look, behind) => (.look look, behind)
        | none => (.look (.wordBoundary flags.unicode), rest)
    | 'B' => some (.look (.noWordBoundary flags.unicode), rest)
    | '<' => some (.look (.wordStart flags.unicode), rest)
    | '>' => some (.look (.wordEnd flags.unicode), rest)
    | _ => if isEscapeable c then some (.literal c, rest) else none

/-- One character or escape inside brackets. -/
def readItem (flags : Flags) : List Char → Option (Escape × List Char)
  | [] => none
  | '\\' :: rest => readEscape flags rest
  | c :: rest => some (.literal c, rest)

/-- A class of ASCII by its name, `[:alpha:]`, behind the opening bracket. -/
def namedClass? (rest : List Char) : Option (CharSet × List Char) :=
  match rest with
  | ':' :: rest =>
    let (negated, rest) := match rest with
      | '^' :: behind => (true, behind)
      | _ => (false, rest)
    let (name, behind) := splitFirst (· == ':') rest
    match behind with
    | some (']' :: behind) =>
      (CharSet.named? (String.ofList name)).map fun set =>
        (if negated then .complement set else set, behind)
    | _ => none
  | _ => none

/-- A literal of a class; without Unicode it is one of ASCII. -/
def literalAllowed (flags : Flags) (c : Char) : Bool := flags.unicode || isAscii c

/-- A single item or a range of a class. -/
def readRange (flags : Flags) (rest : List Char) : Option (CharSet × List Char) := do
  let (first, behind) ← readItem flags rest
  let asSet : Option CharSet := match first with
    | .literal c => if literalAllowed flags c then some (.single c) else none
    | .set set => some set
    | .look _ => none
  match flags.skip behind with
  | [] => none
  | '-' :: more =>
    match flags.skip more with
    | [] => none
    | c :: next =>
      if c = ']' || c = '-' then return (← asSet, flags.skip behind)
      else
        let (second, after) ← readItem flags (c :: next)
        match first, second with
        | .literal low, .literal high =>
          if low ≤ high && literalAllowed flags low && literalAllowed flags high then
            return (.ranges [(low.toNat, high.toNat)], after)
          else none
        | _, _ => none
  | _ => return (← asSet, flags.skip behind)

/-- A part of a pattern with the depth of its nesting. -/
structure Nested (α : Type) where
  part : α
  depth : Nat

def deepest (depths : List Nat) : Nat := depths.foldl max 0

/-- The set of the items between two operators. -/
def gather (items : List (Nested CharSet)) : Nested CharSet :=
  match items with
  | [] => ⟨.empty, 0⟩
  | [item] => item
  | _ => ⟨.unions (items.reverse.map (·.part)), 1 + deepest (items.map (·.depth))⟩

inductive SetOperator where
  | intersection
  | difference
  | symmetricDifference

def SetOperator.apply (flags : Flags) (operator : SetOperator) (left right : CharSet) : CharSet :=
  let left := finishSet flags false left
  let right := finishSet flags false right
  match operator with
  | .intersection => .intersection left right
  | .difference => .difference left right
  | .symmetricDifference => .symmetricDifference left right

/-- The class so far: what stands left of the last operator, joined with the items behind it. -/
def joinItems (flags : Flags) (left : Option (SetOperator × Nested CharSet))
    (items : List (Nested CharSet)) : Nested CharSet :=
  let right := gather items
  match left with
  | none => right
  | some (operator, left) =>
    ⟨operator.apply flags left.part right.part, 1 + max left.depth right.depth⟩

/-- Literal hyphens at the beginning of a class. -/
def leadingHyphens (flags : Flags) (count : Nat) : List Char → Nat × List Char
  | [] => (count, [])
  | c :: rest =>
    if c = '-' then leadingHyphens flags (count + 1) rest
    else if flags.spaced && isBlank c then leadingHyphens flags count rest
    else (count, c :: rest)

/-- The beginning of a class behind its bracket: a complement, literal hyphens and a literal
bracket. -/
def classHead (flags : Flags) (rest : List Char) :
    Option (Bool × List (Nested CharSet) × List Char) :=
  let (negated, behind) := match flags.skip rest with
    | '^' :: behind => (true, flags.skip behind)
    | behind => (false, behind)
  let (hyphens, behind) := leadingHyphens flags 0 behind
  let items := List.replicate hyphens (⟨.single '-', 0⟩ : Nested CharSet)
  match behind with
  | [] => none
  | ']' :: more =>
    if items.isEmpty then
      match flags.skip more with
      | [] => none
      | more => some (negated, [⟨.single ']', 0⟩], more)
    else some (negated, items, behind)
  | _ => some (negated, items, behind)

/-- The items of a class up to its closing bracket. -/
def classBody (flags : Flags) : Nat → Bool → Option (SetOperator × Nested CharSet) →
    List (Nested CharSet) → List Char → Option (Nested CharSet × List Char)
  | 0, _, _, _, _ => none
  | fuel + 1, negated, left, items, rest =>
    match flags.skip rest with
    | [] => none
    | ']' :: rest =>
      let joined := joinItems flags left items
      some (⟨finishSet flags negated joined.part, 1 + joined.depth⟩, rest)
    | '[' :: rest =>
      match namedClass? rest with
      | some (set, behind) => classBody flags fuel negated left (⟨set, 0⟩ :: items) behind
      | none => do
        let (inner, start, behind) ← classHead flags rest
        let (nested, behind) ← classBody flags fuel inner none start behind
        classBody flags fuel negated left (nested :: items) behind
    | '&' :: '&' :: rest =>
      classBody flags fuel negated (some (.intersection, joinItems flags left items)) [] rest
    | '-' :: '-' :: rest =>
      classBody flags fuel negated (some (.difference, joinItems flags left items)) [] rest
    | '~' :: '~' :: rest =>
      classBody flags fuel negated (some (.symmetricDifference, joinItems flags left items)) [] rest
    | rest => do
      let (set, behind) ← readRange flags rest
      classBody flags fuel negated left (⟨set, 0⟩ :: items) behind

/-- Read a class behind its opening bracket. -/
def readClass (flags : Flags) (rest : List Char) : Option (Nested CharSet × List Char) := do
  let (negated, items, behind) ← classHead flags rest
  let (set, behind) ← classBody flags (rest.length + 1) negated none items behind
  if inBounds flags set.part then some (set, behind) else none

/-- A count of a repetition; blanks around it are skipped. -/
def readCount (flags : Flags) (rest : List Char) : Option (Nat × List Char) :=
  let (digits, behind) := digitsOf (rest.dropWhile isBlank)
  (digitsValue? 10 digits).bind fun count =>
    if count < 4294967296 then some (count, behind.dropWhile isBlank) else none
where
  digitsOf : List Char → List Char × List Char
    | [] => ([], [])
    | c :: rest =>
      if isDigit c then
        let (digits, behind) := digitsOf rest
        (c :: digits, behind)
      else if flags.spaced && isBlank c then digitsOf rest
      else ([], c :: rest)

/-- The bounds of a counted repetition behind its brace. -/
def readBounds (flags : Flags) (rest : List Char) : Option (Nat × Option Nat × List Char) := do
  let (least, behind) ← readCount flags (flags.skip rest)
  let (most, behind) ← match behind with
    | ',' :: more =>
      match flags.skip more with
      | '\x7d' :: _ => some (none, flags.skip more)
      | more => (readCount flags more).map fun (most, behind) => (some most, behind)
    | _ => some (some least, behind)
  match behind with
  | '\x7d' :: behind =>
    if (most.getD least) < least then none else return (least, most, flags.skip behind)
  | _ => none

/-- A finished part of a concatenation. A switch of options cannot be repeated. -/
structure Piece where
  node : Node
  depth : Nat
  repeatable : Bool := true

/-- Join the pieces of a concatenation, the last one first. -/
def joinPieces (pieces : List Piece) : Piece :=
  match pieces with
  | [] => ⟨.empty, 0, true⟩
  | [piece] => piece
  | _ => ⟨.concatAll (pieces.reverse.map (·.node)), 1 + deepest (pieces.map (·.depth)), true⟩

/-- Join the branches of an alternation, the last one first. -/
def joinBranches (branches : List Piece) : Piece :=
  match branches with
  | [branch] => branch
  | _ => ⟨.alternateAll (branches.reverse.map (·.node)), 1 + deepest (branches.map (·.depth)), true⟩

/-- An open group: its number if it captures, and what surrounds it. -/
structure Frame where
  index : Option Nat
  flags : Flags
  pieces : List Piece
  branches : List Piece

structure Reader where
  flags : Flags := {}
  pieces : List Piece := []
  branches : List Piece := []
  open' : List Frame := []
  groups : Nat := 0
  names : List (String × Nat) := []

namespace Reader

def push (reader : Reader) (node : Node) (depth : Nat) : Reader :=
  { reader with pieces := ⟨node, depth, true⟩ :: reader.pieces }

/-- Open a group; a capturing one takes the next number. -/
def openGroup (reader : Reader) (captures : Bool) (flags : Flags) : Reader :=
  let groups := if captures then reader.groups + 1 else reader.groups
  { reader with
    flags
    pieces := []
    branches := []
    open' := ⟨if captures then some groups else none, reader.flags, reader.pieces, reader.branches⟩
      :: reader.open'
    groups }

def body (reader : Reader) : Piece := joinBranches (joinPieces reader.pieces :: reader.branches)

def closeGroup (reader : Reader) : Option Reader :=
  match reader.open' with
  | [] => none
  | frame :: outer =>
    let body := reader.body
    let node := match frame.index with
      | some index => Node.group index body.node
      | none => body.node
    some { reader with
      flags := frame.flags
      pieces := ⟨node, 1 + body.depth, true⟩ :: frame.pieces
      branches := frame.branches
      open' := outer }

/-- Repeat the last piece. A repetition of what is always empty is at most one. -/
def repeatLast (reader : Reader) (least : Nat) (most : Option Nat) (greedy : Bool) :
    Option Reader :=
  match reader.pieces with
  | [] => none
  | piece :: pieces =>
    if !piece.repeatable then none
    else
      let greedy := greedy != reader.flags.swapGreed
      let node :=
        if piece.node.alwaysEmpty then
          Node.repetition (min least 1) (some (min (most.getD 1) 1)) greedy piece.node
        else .repetition least most greedy piece.node
      some { reader with pieces := ⟨node, 1 + piece.depth, true⟩ :: pieces }

/-- A question mark behind a repetition makes it lazy. -/
def lazyMark (rest : List Char) : Bool × List Char :=
  match rest with
  | '?' :: behind => (false, behind)
  | _ => (true, rest)

def isNameChar (first : Bool) (c : Char) : Bool :=
  c == '_' || alphabetic.contains c.toNat
    || (!first && (c == '.' || c == '[' || c == ']'
      || [decimalNumber, letterNumber, otherNumber].any (·.contains c.toNat)))

/-- Open a group with a name, behind its opening mark. -/
def openNamed (reader : Reader) (rest : List Char) : Option (Reader × List Char) :=
  match splitFirst (· == '>') rest with
  | (first :: more, some behind) =>
    let name := String.ofList (first :: more)
    if isNameChar true first && more.all (isNameChar false)
        && (reader.names.lookup name).isNone then
      let opened := reader.openGroup true reader.flags
      some ({ opened with names := opened.names ++ [(name, opened.groups)] }, behind)
    else none
  | _ => none

/-- Read what follows an opening parenthesis. -/
def openAny (reader : Reader) (rest : List Char) : Option (Reader × List Char) :=
  match reader.flags.skip rest with
  | '?' :: '<' :: '=' :: _ | '?' :: '<' :: '!' :: _ => none
  | '?' :: 'P' :: '<' :: rest | '?' :: '<' :: rest => reader.openNamed rest
  | '?' :: rest =>
    match Flags.read [] reader.flags rest with
    | none => none
    | some (flags, seen, ')' :: behind) =>
      if seen.isEmpty then none
      else some ({ reader with flags, pieces := ⟨.empty, 0, false⟩ :: reader.pieces }, behind)
    | some (flags, _, behind) => some (reader.openGroup false flags, behind.drop 1)
  | rest => some (reader.openGroup true reader.flags, rest)

def literal (reader : Reader) (c : Char) : Option Reader :=
  if literalAllowed reader.flags c then
    some (reader.push (.set (finishSet reader.flags false (.single c))) 0)
  else none

/-- Read one step of a pattern. -/
def step (reader : Reader) (c : Char) (rest : List Char) : Option (Reader × List Char) :=
  let flags := reader.flags
  match c with
  | '(' => reader.openAny rest
  | ')' => reader.closeGroup.map (·, rest)
  | '|' =>
    some ({ reader with
      pieces := [], branches := joinPieces reader.pieces :: reader.branches }, rest)
  | '[' => (readClass flags rest).map fun (set, behind) =>
      (reader.push (.set set.part) set.depth, behind)
  | '?' =>
    let (greedy, behind) := lazyMark rest
    (reader.repeatLast 0 (some 1) greedy).map (·, behind)
  | '*' =>
    let (greedy, behind) := lazyMark rest
    (reader.repeatLast 0 none greedy).map (·, behind)
  | '+' =>
    let (greedy, behind) := lazyMark rest
    (reader.repeatLast 1 none greedy).map (·, behind)
  | '\x7b' => do
    let (least, most, behind) ← readBounds flags rest
    let (greedy, behind) := lazyMark behind
    return (← reader.repeatLast least most greedy, behind)
  | '\\' => do
    let (escape, behind) ← readEscape flags rest
    match escape with
    | .literal c => return (← reader.literal c, behind)
    | .look look => return (reader.push (.look look) 0, behind)
    | .set set => if inBounds flags set then return (reader.push (.set set) 0, behind) else none
  | '.' =>
    if !flags.unicode then none
    else
      let set := if flags.dotAll then CharSet.all else .withinLine flags.carriageReturn
      some (reader.push (.set set) 0, rest)
  | '^' =>
    let look := if flags.multiLine then Look.lineStart flags.carriageReturn else .textStart
    some (reader.push (.look look) 0, rest)
  | '$' =>
    let look := if flags.multiLine then Look.lineEnd flags.carriageReturn else .textEnd
    some (reader.push (.look look) 0, rest)
  | _ => (reader.literal c).map (·, rest)

/-- Read a pattern to its end; every step takes at least one character. -/
def run : Nat → Reader → List Char → Option Reader
  | 0, _, _ => none
  | fuel + 1, reader, rest =>
    match reader.flags.skip rest with
    | [] => some reader
    | c :: rest => (reader.step c rest).bind fun (reader, behind) => run fuel reader behind

end Reader

/-- How deep the parts of a pattern may be nested. -/
def nestLimit : Nat := 250

/-- A pattern that has been read: its tree, the number of its groups and their names. -/
structure Parsed where
  node : Node
  groups : Nat
  names : List (String × Nat)

/-- Read a pattern; `none` if it is malformed. -/
def read? (text : String) : Option Parsed := do
  let chars := text.toList
  let reader ← Reader.run (chars.length + 1) {} chars
  let body := reader.body
  if !reader.open'.isEmpty || body.depth > nestLimit then none
  else some ⟨body.node, reader.groups, reader.names⟩

end AuthGate.Pattern
