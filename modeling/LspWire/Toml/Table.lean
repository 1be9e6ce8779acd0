import LspWire.Json.Basic

/-! Tables of a settings file, as its statements build them.
A table remembers what made it, since that decides what may still be added: a header opens a
table once, a table that was only on the way to another may still be opened, and one made by a
dotted key takes dotted keys alone. A value is closed. -/

namespace LspWire.Toml

inductive Origin where
  | header
  | implied
  | dotted

inductive Node where
  | value (v : Json)
  | table (origin : Origin) (entries : List (String × Node))
  /-- The tables under a repeated header, of which the latest takes additions. -/
  | tables (latest : List (String × Node)) (earlier : List (List (String × Node)))

abbrev Entries := List (String × Node)

def find? (key : String) : Entries → Option Node
  | [] => none
  | (other, node) :: rest => if other = key then some node else find? key rest

def enter (key : String) (node : Node) : Entries → Entries
  | [] => [(key, node)]
  | (other, held) :: rest =>
    if other = key then (key, node) :: rest else (other, held) :: enter key node rest

def setKey (v : Json) : List String → Entries → Option Entries
  | [], _ => none
  | [key], entries =>
    match find? key entries with
    | none => some (enter key (.value v) entries)
    | some _ => none
  | key :: next :: rest, entries => do
    let node ← match find? key entries with
      | none => (setKey v (next :: rest) []).map (.table .dotted)
      | some (.table .dotted inner) => (setKey v (next :: rest) inner).map (.table .dotted)
      | some (.table .implied inner) =>
        if rest.isEmpty then none else (setKey v (next :: rest) inner).map (.table .implied)
      | some (.tables latest earlier) =>
        if rest.isEmpty then none
        else (setKey v (next :: rest) latest).map (.tables · earlier)
      | some (.table .header _) | some (.value _) => none
    return enter key node entries

def opened (repeated : Bool) : Option Node → Option Node
  | none => some (if repeated then .tables [] [] else .table .header [])
  | some (.table .implied inner) => if repeated then none else some (.table .header inner)
  | some (.tables latest earlier) =>
    if repeated then some (.tables [] (latest :: earlier)) else none
  | some _ => none

def openTable (repeated : Bool) : List String → Entries → Option Entries
  | [], _ => none
  | [key], entries => (opened repeated (find? key entries)).map fun node => enter key node entries
  | key :: next :: rest, entries => do
    let node ← match find? key entries with
      | none => (openTable repeated (next :: rest) []).map (.table .implied)
      | some (.table origin inner) =>
        (openTable repeated (next :: rest) inner).map (.table origin)
      | some (.tables latest earlier) =>
        (openTable repeated (next :: rest) latest).map (.tables · earlier)
      | some (.value _) => none
    return enter key node entries

def changeTable (change : Entries → Option Entries) : List String → Entries → Option Entries
  | [], entries => change entries
  | key :: rest, entries => do
    let node ← match find? key entries with
      | some (.table origin inner) => (changeTable change rest inner).map (.table origin)
      | some (.tables latest earlier) =>
        (changeTable change rest latest).map (.tables · earlier)
      | _ => none
    return enter key node entries

mutual

def Node.toJson : Node → Json
  | .value v => v
  | .table _ entries => .object (membersOf entries)
  | .tables latest earlier => .array ((.object (membersOf latest) :: itemsOf earlier).reverse)

/-- The members of a table, in order. -/
def membersOf : List (String × Node) → Members
  | [] => []
  | (key, node) :: rest => Members.insert key node.toJson (membersOf rest)

def itemsOf : List (List (String × Node)) → List Json
  | [] => []
  | entries :: rest => .object (membersOf entries) :: itemsOf rest

end

end LspWire.Toml
