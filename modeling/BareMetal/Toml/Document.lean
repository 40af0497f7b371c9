import BareMetal.Toml.Value

/-!
# Documents under construction

The tables of a document as its lines build them up. A table remembers how it
came about, because that decides what may still be added to it: a header defines
a table once, dotted keys do not reach into a table with a header, and a value is
never extended.
-/

namespace BareMetal.Toml

inductive Origin where
  /-- Defined by a header, or the document itself. -/
  | header
  /-- Named on the way to a header. -/
  | implied
  /-- Named on the way to a dotted key. -/
  | dotted
deriving DecidableEq

inductive Item where
  | value (v : Value)
  | table (origin : Origin) (entries : List (String × Item))
  /-- The elements of an array of tables, the latest first. -/
  | tables (elements : List (List (String × Item)))

abbrev Items := List (String × Item)

namespace Items

/-- Replaces the entry of a key, or adds it at the end. -/
def put (key : String) (item : Item) : Items → Items
  | [] => [(key, item)]
  | (k, v) :: rest => if k = key then (k, item) :: rest else (k, v) :: put key item rest

/-- Applies `f` to the table at the end of a path, creating the tables on the way to it. -/
def within (dotted : Bool) (f : Origin → Items → Option Items) :
    List String → Origin → Items → Option Items
  | [], origin, items => f origin items
  | key :: path, _, items =>
    let fresh : Origin := if dotted then .dotted else .implied
    match items.lookup key with
    | none => do return put key (.table fresh (← within dotted f path fresh [])) items
    | some (.value _) => none
    | some (.table origin inner) =>
      if dotted ∧ origin = .header then none
      else do return put key (.table origin (← within dotted f path origin inner)) items
    | some (.tables []) => none
    | some (.tables (last :: before)) => do
      return put key (.tables ((← within dotted f path .header last) :: before)) items

def addKey (path : List String) (key : String) (v : Value) (items : Items) : Option Items :=
  within true (fun origin inner =>
    if (origin == .dotted) == path.isEmpty then none
    else match inner.lookup key with
      | some _ => none
      | none => some (inner ++ [(key, .value v)])) path .header items

def openTable (path : List String) (key : String) (items : Items) : Option Items :=
  within false (fun _ inner =>
    match inner.lookup key with
    | none => some (inner ++ [(key, .table .header [])])
    | some (.table .implied entries) => some (put key (.table .header entries) inner)
    | some _ => none) path .header items

/-- Opens a new element of the array of tables a header names. -/
def openElement (path : List String) (key : String) (items : Items) : Option Items :=
  within false (fun _ inner =>
    match inner.lookup key with
    | none => some (inner ++ [(key, .tables [[]])])
    | some (.tables elements) => some (put key (.tables ([] :: elements)) inner)
    | some _ => none) path .header items

end Items

mutual

def Item.toValue : Item → Value
  | .value v => v
  | .table _ entries => .table (valueEntries entries)
  | .tables elements => .array (valueElements elements).reverse

def valueEntries : List (String × Item) → List (String × Value)
  | [] => []
  | (key, item) :: rest => (key, item.toValue) :: valueEntries rest

def valueElements : List (List (String × Item)) → List Value
  | [] => []
  | entries :: rest => .table (valueEntries entries) :: valueElements rest

end

end BareMetal.Toml
