import AuthGate.Text.Ascii

namespace AuthGate.Toml
open Text

def isSpace (c : Char) : Bool := c == ' ' || c == '\t'

/-- A character that may stand in a comment. -/
def isPrinted (c : Char) : Bool := c == '\t' || (' ' ≤ c && c ≤ '~') || !isAscii c

/-- The rest behind a line break. -/
def afterBreak? : List Char → Option (List Char)
  | '\n' :: rest => some rest
  | '\r' :: '\n' :: rest => some rest
  | _ => none

def charOf? (digits : List Char) : Option Char :=
  (digitsValue? 16 digits).bind fun code =>
    if h : code.isValidChar then some (Char.ofNatAux code h) else none

/-- The character of a one-letter escape. -/
def escaped? (letter : Char) : Option Char :=
  [('b', '\x08'), ('t', '\t'), ('n', '\n'), ('f', '\x0c'), ('r', '\r'), ('"', '"'),
    ('\\', '\\')].lookup letter

/-- The characters up to a closing quotation mark. -/
def basicText : List Char → Option (List Char × List Char)
  | [] => none
  | '"' :: rest => some ([], rest)
  | '\\' :: 'u' :: a :: b :: c :: d :: rest => do
    let escape ← charOf? [a, b, c, d]
    let (text, behind) ← basicText rest
    return (escape :: text, behind)
  | '\\' :: 'U' :: a :: b :: c :: d :: e :: f :: g :: h :: rest => do
    let escape ← charOf? [a, b, c, d, e, f, g, h]
    let (text, behind) ← basicText rest
    return (escape :: text, behind)
  | '\\' :: letter :: rest => do
    let escape ← escaped? letter
    let (text, behind) ← basicText rest
    return (escape :: text, behind)
  | c :: rest => do
    let (text, behind) ← basicText rest
    if isPrinted c && c != '\\' then return (c :: text, behind) else none

/-- The characters up to a closing apostrophe. -/
def literalText : List Char → Option (List Char × List Char)
  | [] => none
  | c :: rest =>
    if c = '\'' then some ([], rest)
    else if isPrinted c then (literalText rest).map fun (text, behind) => (c :: text, behind)
    else none

/-- A backslash at the end of a line joins it with the next text. -/
def endsLine (rest : List Char) : Bool := (afterBreak? (rest.dropWhile isSpace)).isSome

/-- The characters up to three closing marks, of which two more may stand before them. -/
def closing? (mark : Char) (rest : List Char) : Option (List Char × List Char) :=
  match (rest.takeWhile (· == mark)).length with
  | 0 | 1 | 2 => none
  | 3 => some ([], rest.drop 3)
  | 4 => some ([mark], rest.drop 4)
  | _ => some ([mark, mark], rest.drop 5)

/-- The characters of several lines with escapes. `joining` holds behind the end of a joined line. -/
def basicLines (joining : Bool) : List Char → Option (List Char × List Char)
  | [] => none
  | c :: rest =>
    if joining && (isSpace c || c == '\n' || (c == '\r' && rest.head? == some '\n')) then
      basicLines true rest
    else if c = '"' then
      match closing? '"' (c :: rest) with
      | some ending => some ending
      | none => (basicLines false rest).map fun (text, behind) => (c :: text, behind)
    else if c = '\\' then
      if endsLine rest then basicLines true rest
      else match rest with
      | 'u' :: a :: b :: c :: d :: rest => do
        let escape ← charOf? [a, b, c, d]
        let (text, behind) ← basicLines false rest
        return (escape :: text, behind)
      | 'U' :: a :: b :: c :: d :: e :: f :: g :: h :: rest => do
        let escape ← charOf? [a, b, c, d, e, f, g, h]
        let (text, behind) ← basicLines false rest
        return (escape :: text, behind)
      | letter :: rest => do
        let escape ← escaped? letter
        let (text, behind) ← basicLines false rest
        return (escape :: text, behind)
      | [] => none
    else if c = '\r' then if rest.head? = some '\n' then basicLines false rest else none
    else if isPrinted c || c = '\n' then
      (basicLines false rest).map fun (text, behind) => (c :: text, behind)
    else none

/-- The characters of several lines as they are, line breaks apart. -/
def literalLines : List Char → Option (List Char × List Char)
  | [] => none
  | c :: rest =>
    let keep := (literalLines rest).map fun (text, behind) => (c :: text, behind)
    if c = '\'' then
      match closing? '\'' (c :: rest) with
      | some ending => some ending
      | none => keep
    else if c = '\r' then if rest.head? = some '\n' then literalLines rest else none
    else if isPrinted c || c = '\n' then keep
    else none

/-- A line break right behind the opening marks does not count. -/
def withoutFirstBreak (rest : List Char) : List Char := (afterBreak? rest).getD rest

/-- A quoted text of either kind on one line. -/
def quotedLine? : List Char → Option (List Char × List Char)
  | '"' :: rest => basicText rest
  | '\'' :: rest => literalText rest
  | _ => none

/-- A quoted text of any kind. -/
def quotedText? : List Char → Option (List Char × List Char)
  | '"' :: '"' :: '"' :: rest => basicLines false (withoutFirstBreak rest)
  | '\'' :: '\'' :: '\'' :: rest => literalLines (withoutFirstBreak rest)
  | rest => quotedLine? rest

end AuthGate.Toml
