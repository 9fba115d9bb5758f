import AuthGate.Toml.Value

/-! Building the table of a document from its headers and keys, in the order in which they stand. A
table is defined once; keys with dots extend only tables that came about by such keys. -/
namespace AuthGate.Toml.Entries

/-- Change the table at the end of a path. Tables on the way are created, and a list of tables stands
for its last one. -/
def under (dotted : Bool) (change : TableForm → Entries → Option Entries) (form : TableForm)
    (entries : Entries) : List String → Option Entries
  | [] => change form entries
  | key :: path =>
    match entries.lookup key with
    | none => do
      let created := if dotted then TableForm.dotted else .implied
      let inner ← under dotted change created [] path
      return entries ++ [(key, .table created inner)]
    | some (.table form inner) =>
      if form = .braced || (dotted && form = .headed) then none
      else (under dotted change form inner path).map fun inner =>
        entries.replace key (.table form inner)
    | some (.array true items) =>
      match items.getLast? with
      | some (.table form inner) =>
        (under dotted change form inner path).map fun inner =>
          entries.replace key (.array true (items.dropLast ++ [.table form inner]))
      | _ => none
    | some _ => none

/-- Give a value to a key, which may have dots. -/
def insertKey (form : TableForm) (entries : Entries) (path : List String) (key : String)
    (value : Value) : Option Entries :=
  entries.under true
    (fun form entries =>
      if (form == .dotted) == path.isEmpty then none
      else if (entries.lookup key).isSome then none
      else some (entries ++ [(key, value)]))
    form path

/-- Define the table of a header. -/
def defineTable (entries : Entries) (path : List String) (key : String) : Option Entries :=
  entries.under false
    (fun _ entries =>
      match entries.lookup key with
      | none => some (entries ++ [(key, .table .headed [])])
      | some (.table .implied inner) => some (entries.without key ++ [(key, .table .headed inner)])
      | some _ => none)
    .headed path

/-- Add a table to the list of a double header. -/
def addTable (entries : Entries) (path : List String) (key : String) : Option Entries :=
  entries.under false
    (fun _ entries =>
      match entries.lookup key with
      | none => some (entries ++ [(key, .array true [.table .headed []])])
      | some (.array true items) =>
        some (entries.replace key (.array true (items ++ [.table .headed []])))
      | some _ => none)
    .headed path

end AuthGate.Toml.Entries
