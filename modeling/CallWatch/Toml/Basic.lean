/-!
# TOML values and documents

A document is a table.  Tables come about in four ways (`Origin`), which decide what may still be
put into them: a table under a header takes more by its header's assignments only, the tables on
the way to a header may get a header of their own once, tables that dotted keys made take more by
dotted keys, and inline tables are complete.

`Toml.ofStatements?` builds a document from its lines; it fails if they contradict each other.
Only what a reader of settings can tell apart is kept of a value: of numbers with a fraction and
of dates nothing but that they are some.
-/

namespace CallWatch

/-- How a table came about. -/
inductive Toml.Origin where
  /-- By a header, or as the document itself. -/
  | header
  /-- On the way to a table with a header. -/
  | parent
  /-- By a dotted key. -/
  | dotted
  /-- As a value. -/
  | inline
  deriving DecidableEq, Repr

/-- A TOML value. -/
inductive Toml where
  | boolean (b : Bool)
  | integer (n : Int)
  | string (s : String)
  | float
  | datetime
  | array (items : List Toml)
  | table (origin : Toml.Origin) (entries : List (String × Toml))
  /-- An array of the tables under headers in double brackets. -/
  | tables (items : List (List (String × Toml)))

namespace Toml

/-- The contents of a table. -/
abbrev Entries := List (String × Toml)

/-- A path of keys. -/
abbrev Path := List String

/-- Puts a value in the place of the one at a key that is there. -/
def Entries.replace (entries : Entries) (key : String) (v : Toml) : Entries :=
  entries.map fun entry => if entry.1 = key then (key, v) else entry

/-- Changes the table at the end of a path, creating the tables on the way that are missing; for
a path that leads to an array of tables, its last one.  Along a dotted key, tables under a header
are closed; inline tables always are. -/
def Entries.change? (isDotted : Bool) (change : Origin → Entries → Option Entries) :
    Path → Origin → Entries → Option Entries
  | [], origin, entries => change origin entries
  | key :: path, _, entries =>
    match entries.lookup key with
    | none => do
      let origin := if isDotted then .dotted else .parent
      let inner ← change? isDotted change path origin []
      return entries ++ [(key, table origin inner)]
    | some (table origin inner) => do
      if origin = .inline ∨ (isDotted ∧ origin = .header) then none
      let inner ← change? isDotted change path origin inner
      return Entries.replace entries key (table origin inner)
    | some (tables items) => do
      -- only the table under the latest header is still open
      let last ← items.getLast?
      let last ← change? isDotted change path .header last
      return Entries.replace entries key (tables (items.dropLast ++ [last]))
    | some _ => none

/-- Assigns a value to a key in a table of its own or at the end of a dotted key. -/
def Entries.assign? (path : Path) (key : String) (v : Toml) (entries : Entries) :
    Option Entries :=
  change? true (fun origin entries =>
    if (path ≠ [] ∧ origin ≠ .dotted) ∨ (entries.lookup key).isSome then none
    else some (entries ++ [(key, v)])) path .header entries

/-- Starts the table of a header. -/
def Entries.openTable? (path : Path) (key : String) (entries : Entries) : Option Entries :=
  change? false (fun _ entries =>
    match entries.lookup key with
    | none => some (entries ++ [(key, table .header [])])
    | some (table .parent inner) => some (Entries.replace entries key (table .header inner))
    | some _ => none) path .header entries

/-- Starts the next table of an array of tables. -/
def Entries.openItem? (path : Path) (key : String) (entries : Entries) : Option Entries :=
  change? false (fun _ entries =>
    match entries.lookup key with
    | none => some (entries ++ [(key, tables [[]])])
    | some (tables items) => some (Entries.replace entries key (tables (items ++ [[]])))
    | some _ => none) path .header entries

/-- The table that assignments in braces say. -/
def inline? (assignments : List (Path × String × Toml)) : Option Toml := do
  let entries ← assignments.foldlM
    (fun entries (path, key, v) => Entries.assign? path key v entries) []
  return table .inline entries

/-- A line of a document. -/
inductive Statement where
  | assign (path : Path) (key : String) (v : Toml)
  | openTable (path : Path) (key : String)
  | openItem (path : Path) (key : String)

/-- Takes a line; also the path of the table to which assignments belong from then on. -/
def takeStatement? (entries : Entries) (present : Path) : Statement → Option (Entries × Path)
  | .assign path key v => do
    let entries ← entries.change? false (fun _ inner => inner.assign? path key v) present .header
    return (entries, present)
  | .openTable path key => do return (← entries.openTable? path key, path ++ [key])
  | .openItem path key => do return (← entries.openItem? path key, path ++ [key])

/-- The document that lines say. -/
def ofStatements? (statements : List Statement) : Option Toml := do
  let (entries, _) ← statements.foldlM
    (fun (entries, present) s => takeStatement? entries present s) ([], [])
  return table .header entries

end Toml

end CallWatch
