import AuthGate.Toml.Scalar
import AuthGate.Toml.Tree

namespace AuthGate.Toml
open Text

/-- How deep values may be nested, and how many parts a key may have. -/
def nestingLimit : Nat := 80

def isKeyChar (c : Char) : Bool := isAlphanum c || c == '_' || c == '-'

/-- One part of a key. -/
def keyPart? (rest : List Char) : Option (String × List Char) :=
  match rest with
  | '"' :: _ | '\'' :: _ => (quotedLine? rest).map fun (key, behind) => (String.ofList key, behind)
  | _ =>
    let key := rest.takeWhile isKeyChar
    if key.isEmpty then none else some (String.ofList key, rest.drop key.length)

/-- The parts of a key, with blanks around each. -/
def keyParts? : Nat → List Char → Option (List String × List Char)
  | 0, _ => none
  | fuel + 1, rest => do
    let (part, behind) ← keyPart? (rest.dropWhile isSpace)
    match behind.dropWhile isSpace with
    | '.' :: more =>
      let (parts, behind) ← keyParts? fuel more
      return (part :: parts, behind)
    | behind => return ([part], behind)

/-- The parts of a key before the last one, and the last one. -/
def key? (rest : List Char) : Option ((List String × String) × List Char) := do
  let (parts, behind) ← keyParts? nestingLimit rest
  if parts.length ≥ nestingLimit then none
  else return ((parts.dropLast, ← parts.getLast?), behind)

/-- Skip blanks, line breaks and comments between the items of a list. -/
def skipLines (comment : Bool) : List Char → Option (List Char)
  | [] => if comment then none else some []
  | c :: rest =>
    if c = '\n' then skipLines false rest
    else if c = '\r' then if rest.head? = some '\n' then skipLines comment rest else none
    else if comment then if isPrinted c then skipLines true rest else none
    else if c = '#' then skipLines true rest
    else if isSpace c then skipLines false rest
    else some (c :: rest)

def word? (word : String) (value : Value) (rest : List Char) : Option (Value × List Char) :=
  (dropPrefix? word.toList rest).map (value, ·)

mutual

/-- Read a value. -/
def value? : Nat → Nat → List Char → Option (Value × List Char)
  | 0, _, _ => none
  | fuel + 1, depth, rest =>
    match rest with
    | [] => none
    | c :: behind =>
      if c = '"' || c = '\'' then
        (quotedText? rest).map fun (text, behind) => (.string (String.ofList text), behind)
      else if c = '[' then
        if depth + 1 ≥ nestingLimit then none
        else (items? fuel (depth + 1) behind).map fun (items, behind) => (.array false items, behind)
      else if c = '\x7b' then
        if depth + 1 ≥ nestingLimit then none
        else
          match behind.dropWhile isSpace with
          | '\x7d' :: behind => some (.table .braced [], behind)
          | _ =>
            (pairs? fuel (depth + 1) [] behind).map fun (entries, behind) =>
              (.table .braced entries, behind)
      else if c = 't' then word? "true" (.boolean true) rest
      else if c = 'f' then word? "false" (.boolean false) rest
      else numberOrMoment? rest

/-- Read the items of a list behind its bracket or a comma. -/
def items? : Nat → Nat → List Char → Option (List Value × List Char)
  | 0, _, _ => none
  | fuel + 1, depth, rest => do
    match ← skipLines false rest with
    | ']' :: behind => return ([], behind)
    | rest =>
      let (item, behind) ← value? fuel depth rest
      match ← skipLines false behind with
      | ',' :: behind =>
        let (items, behind) ← items? fuel depth behind
        return (item :: items, behind)
      | ']' :: behind => return ([item], behind)
      | _ => none

/-- Read the pairs of a table in braces. -/
def pairs? : Nat → Nat → Entries → List Char → Option (Entries × List Char)
  | 0, _, _, _ => none
  | fuel + 1, depth, entries, rest => do
    let ((path, key), behind) ← key? rest
    let (value, behind) ← value? fuel depth ((← expect? '=' behind).dropWhile isSpace)
    let entries ← entries.insertKey .braced path key value
    match behind.dropWhile isSpace with
    | ',' :: behind => pairs? fuel depth entries behind
    | '\x7d' :: behind => return (entries, behind)
    | _ => none

end

/-- The rest behind the end of a line, which may have a comment. -/
def lineEnd? (rest : List Char) : Option (List Char) :=
  let behind := match rest.dropWhile isSpace with
    | '#' :: comment => comment.dropWhile isPrinted
    | behind => behind
  match behind with
  | [] => some []
  | _ => afterBreak? behind

/-- A document that is being read: its table and the header that the next keys belong to. -/
structure Document where
  root : Entries
  header : List String

namespace Document

/-- Add a key to the table of the last header. -/
def addKey (document : Document) (path : List String) (key : String) (value : Value) :
    Option Document := do
  let root ← document.root.under false
    (fun form entries => entries.insertKey form path key value) .headed document.header
  return { document with root }

/-- Read one line, from its first character that is not a blank. -/
def line? (document : Document) (rest : List Char) : Option (Document × List Char) := do
  match rest with
  | '[' :: '[' :: behind =>
    let ((path, key), behind) ← key? behind
    let behind ← lineEnd? (← dropPrefix? [']', ']'] behind)
    return (⟨← document.root.addTable path key, path ++ [key]⟩, behind)
  | '[' :: behind =>
    let ((path, key), behind) ← key? behind
    let behind ← lineEnd? (← expect? ']' behind)
    return (⟨← document.root.defineTable path key, path ++ [key]⟩, behind)
  | '#' :: _ | '\n' :: _ | '\r' :: _ => return (document, ← lineEnd? rest)
  | _ =>
    let ((path, key), behind) ← key? rest
    let (value, behind) ← value? (2 * rest.length + 2) 0 ((← expect? '=' behind).dropWhile isSpace)
    return (← document.addKey path key value, ← lineEnd? behind)

def lines? : Nat → Document → List Char → Option Document
  | 0, _, _ => none
  | fuel + 1, document, rest =>
    match rest.dropWhile isSpace with
    | [] => some document
    | rest => (document.line? rest).bind fun (document, behind) => lines? fuel document behind

end Document

/-- Read a document. A mark of the byte order at its beginning is skipped. -/
def parse (text : String) : Option Value :=
  let chars := match text.toList with
    | '\ufeff' :: rest => rest
    | chars => chars
  (Document.lines? (chars.length + 1) ⟨[], []⟩ chars).map fun document =>
    .table .headed document.root

end AuthGate.Toml
