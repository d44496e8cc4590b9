/-!
The contents of a TOML document.

A document is a table, and tables grow while the document is read: by a header, by a key with dots, or
because a longer header implies them. How a table came to be decides what may still be added to it; an
inline table is complete when it is read.

* `Node.insert?` adds a value under a dotted key,
* `Node.openTable?` and `Node.openElement?` apply the headers of tables and of arrays of tables.
-/

namespace RemoteDebug.Toml

/-- How a table came to be. -/
inductive Origin where
  /-- A header or an element of an array of tables defined it. -/
  | defined
  /-- A longer header implied it. -/
  | implied
  /-- A key with dots made it. -/
  | dotted
deriving DecidableEq, Repr

/-- A value of a document. -/
inductive Node where
  | text (text : String)
  | flag (b : Bool)
  /-- A number, a date or a time. -/
  | scalar
  | array (items : List Node)
  | inline (entries : List (String × Node))
  | table (origin : Origin) (entries : List (String × Node))
  | tables (elements : List (List (String × Node)))
deriving Repr

/-- The keys and values of a table. -/
abbrev Entries := List (String × Node)

/-- Put a value under a key, in place of the one before it. -/
def Entries.put (entries : Entries) (key : String) (node : Node) : Entries :=
  if (entries.lookup key).isSome then
    entries.map fun (k, old) => (k, if k = key then node else old)
  else entries ++ [(key, node)]

/-- Change the last element of a list, which must not be empty. -/
def changeLast? {α : Type} (f : α → Option α) : List α → Option (List α)
  | [] => none
  | [a] => (f a).map ([·])
  | a :: rest => (changeLast? f rest).map (a :: ·)

namespace Node

/-- Add a value to a table that the parts of a dotted key lead to. Tables on the way are made where they
are missing; a table that was defined on its own is closed to dotted keys. -/
def insert? (name : String) (node : Node) : List String → Entries → Option Entries
  | [], entries =>
    if (entries.lookup name).isSome then none else some (entries.put name node)
  | part :: path, entries =>
    let last := path.isEmpty
    match entries.lookup part with
    | none => do
      let inner ← insert? name node path []
      return entries.put part (.table .dotted inner)
    | some (.table origin inner) =>
      if origin = .defined ∨ (last ∧ origin ≠ .dotted) then none
      else do
        let inner ← insert? name node path inner
        return entries.put part (.table origin inner)
    | some (.tables elements) =>
      if last then none
      else do
        let elements ← changeLast? (insert? name node path) elements
        return entries.put part (.tables elements)
    | some _ => none

/-- Change the table that a path of headers leads to; missing tables on the way are implied. -/
def change? (f : Entries → Option Entries) : List String → Entries → Option Entries
  | [], entries => f entries
  | part :: path, entries =>
    match entries.lookup part with
    | none => do
      let inner ← change? f path []
      return entries.put part (.table .implied inner)
    | some (.table origin inner) => do
      let inner ← change? f path inner
      return entries.put part (.table origin inner)
    | some (.tables elements) => do
      let elements ← changeLast? (change? f path) elements
      return entries.put part (.tables elements)
    | some _ => none

/-- Apply a table header: the table is new, or was only implied so far. -/
def openTable? (path : List String) (name : String) : Entries → Option Entries :=
  change? (fun entries =>
    match entries.lookup name with
    | none => some (entries.put name (.table .defined []))
    | some (.table .implied inner) => some (entries.put name (.table .defined inner))
    | some _ => none) path

/-- Apply the header of an element of an array of tables. -/
def openElement? (path : List String) (name : String) : Entries → Option Entries :=
  change? (fun entries =>
    match entries.lookup name with
    | none => some (entries.put name (.tables [[]]))
    | some (.tables elements) => some (entries.put name (.tables (elements ++ [[]])))
    | some _ => none) path

end Node

end RemoteDebug.Toml
