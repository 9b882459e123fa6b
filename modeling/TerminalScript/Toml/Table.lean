import TerminalScript.Json.Value

/-!
The tables of a configuration text while it is read. A table may be opened by a header, come into
being as part of a longer name, or be closed for good as a value; what may still be added to it
depends on how it began.
-/

namespace TerminalScript.Toml

open Json (Value)

inductive Origin
  | header
  | implied
  | dotted
  deriving Inhabited, DecidableEq

inductive Item
  | value (value : Value)
  | table (origin : Origin) (entries : List (String × Item))
  | tables (elements : List (List (String × Item)))
  deriving Inhabited

abbrev Entries := List (String × Item)

structure Table where
  origin : Origin
  entries : Entries
  deriving Inhabited

def setEntry (name : String) (item : Item) : Entries → Entries
  | [] => [(name, item)]
  | (other, kept) :: rest =>
      if other = name then (name, item) :: rest else (other, kept) :: setEntry name item rest

/-- Changes the table that a path leads to. A step of a dotted key may only pass through tables that
no header opened; a step of a header enters the last of several tables. -/
def update (dotted : Bool) (change : Table → Option Table) :
    List String → Table → Option Table
  | [], table => change table
  | name :: path, table => do
      match table.entries.lookup name with
      | none =>
          let fresh : Table := ⟨if dotted then .dotted else .implied, []⟩
          let inner ← update dotted change path fresh
          pure { table with entries := setEntry name (.table inner.origin inner.entries) table.entries }
      | some (.value _) => none
      | some (.table origin entries) =>
          if dotted && origin = .header then none
          else
            let inner ← update dotted change path ⟨origin, entries⟩
            pure
              { table with entries := setEntry name (.table inner.origin inner.entries) table.entries }
      | some (.tables elements) =>
          let last := elements.getLast?.getD []
          let inner ← update dotted change path ⟨.header, last⟩
          let elements := elements.dropLast ++ [inner.entries]
          pure { table with entries := setEntry name (.tables elements) table.entries }

/-- Adds a value under a dotted key. A table that a dotted key began takes no plain key, and one that
a header began takes no dotted key through itself. -/
def addValue (path : List String) (name : String) (item : Item) (table : Table) : Option Table :=
  update true
    (fun table =>
      if table.origin = .dotted ↔ path = [] then none
      else if (table.entries.lookup name).isSome then none
      else some { table with entries := table.entries ++ [(name, item)] })
    path table

mutual

def Item.toJson : Item → Value
  | .value value => value
  | .table _ entries => .ofFields (entriesToFields entries)
  | .tables elements => .array (tablesToJson elements)

def entriesToFields : List (String × Item) → List (String × Value)
  | [] => []
  | (name, item) :: rest => (name, item.toJson) :: entriesToFields rest

def tablesToJson : List (List (String × Item)) → List Value
  | [] => []
  | entries :: rest => .ofFields (entriesToFields entries) :: tablesToJson rest

end

structure State where
  root : Table := ⟨.header, []⟩
  current : Table := ⟨.header, []⟩
  path : List String := []
  repeated : Bool := false
  deriving Inhabited

namespace State

def updateParent (root : Table) (path : List String) (change : String → Table → Option Table) :
    Option Table := do
  let name ← path.getLast?
  update false (change name) path.dropLast root

def finish (state : State) : Option Table :=
  if state.path.isEmpty then some state.current
  else if state.repeated then
    updateParent state.root state.path fun name parent =>
      match parent.entries.lookup name with
      | none => some { parent with entries := parent.entries ++ [(name, .tables [state.current.entries])] }
      | some (.tables elements) =>
          some { parent with
            entries := setEntry name (.tables (elements ++ [state.current.entries])) parent.entries }
      | some _ => none
  else
    updateParent state.root state.path fun name parent =>
      some { parent with entries := setEntry name (.table .header state.current.entries) parent.entries }

def openTable (path : List String) (state : State) : Option State := do
  -- A table that only longer headers implied may be opened once.
  let root ← state.finish
  let found (name : String) (parent : Table) : Option Entries :=
    match parent.entries.lookup name with
    | none => some []
    | some (.table .implied entries) => some entries
    | some _ => none
  let root ← updateParent root path fun name parent => (found name parent).map fun _ => parent
  let rec entriesAt : List String → Entries → Entries
    | [], entries => entries
    | name :: rest, entries =>
        match entries.lookup name with
        | some (.table _ inner) => entriesAt rest inner
        | some (.tables elements) => entriesAt rest (elements.getLast?.getD [])
        | _ => []
  pure { root, current := ⟨.header, entriesAt path root.entries⟩, path, repeated := false }

def openRepeated (path : List String) (state : State) : Option State := do
  let root ← state.finish
  let root ← updateParent root path fun name parent =>
    match parent.entries.lookup name with
    | none => some { parent with entries := parent.entries ++ [(name, .tables [])] }
    | some (.tables _) => some parent
    | some _ => none
  pure { root, current := ⟨.header, []⟩, path, repeated := true }

end State

end TerminalScript.Toml
