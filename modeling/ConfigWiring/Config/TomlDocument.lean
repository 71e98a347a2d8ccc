import ConfigWiring.Config.Value

/-!
# Tables of a TOML document

A TOML document fills its tables statement by statement.  A header opens a table, once; a
dotted key opens tables on its way.  No key is given twice, a table that a header opened
is not reopened by a dotted key, and a table or list that was given as a value is closed.
-/

namespace ConfigWiring
namespace Config
namespace Toml

/-- How a table came to be. -/
inductive Origin where
  /-- On the way to the table of a header. -/
  | passing
  /-- On the way of a dotted key. -/
  | dotted
  /-- By a header of its own. -/
  | header
  deriving DecidableEq, Repr

/-- What stands under a key while a document is read. -/
inductive Item where
  /-- A value, which is closed. -/
  | value (value : Value)
  /-- A table. -/
  | table (origin : Origin) (fields : List (String × Item))
  /-- The tables that headers of one key opened one after the other. -/
  | tables (items : List Item)
  deriving Repr

/-- The fields of a table while a document is read. -/
abbrev Fields := List (String × Item)

/-- Give a key another item. -/
def replace (key : String) (item : Item) : Fields -> Fields
  | [] => [(key, item)]
  | field :: fields =>
      if field.1 = key then (key, item) :: fields else field :: replace key item fields

/-- The item under a key. -/
def item? (key : String) : Fields -> Option Item
  | [] => none
  | field :: fields => if field.1 = key then some field.2 else item? key fields

/-- Change the table at the end of a chain of keys, opening the tables on its way. -/
def changeAt (byDot : Bool) (change : Origin -> Fields -> Option Fields) :
    List String -> Origin -> Fields -> Option Fields
  | [], origin, fields => change origin fields
  | key :: keys, _, fields =>
      match item? key fields with
      | none => do
          let opened := if byDot then Origin.dotted else Origin.passing
          return replace key (.table opened (← changeAt byDot change keys opened [])) fields
      | some (.table origin inner) =>
          if byDot && origin = .header then none
          else do
            return replace key (.table origin (← changeAt byDot change keys origin inner)) fields
      | some (.tables items) =>
          match items.getLast? with
          | some (.table origin inner) => do
              let last := Item.table origin (← changeAt byDot change keys origin inner)
              return replace key (.tables (items.dropLast ++ [last])) fields
          | _ => none
      | some (.value _) => none

/-- Give the last of a chain of keys a value, below the table of a header. -/
def assign (header : List String) (keys : List String) (value : Value) (fields : Fields) :
    Option Fields :=
  match keys.getLast? with
  | none => none
  | some key =>
      let give (origin : Origin) (fields : Fields) : Option Fields :=
        if (origin = .dotted) = (keys.length ≤ 1) then none
        else if (item? key fields).isSome then none
        else some (replace key (.value value) fields)
      changeAt false (changeAt true give keys.dropLast) header .header fields

/-- Open the table of a header. -/
def openTable (keys : List String) (fields : Fields) : Option Fields :=
  match keys.getLast? with
  | none => none
  | some key =>
      let opened (_ : Origin) (fields : Fields) : Option Fields :=
        match item? key fields with
        | none => some (replace key (.table .header []) fields)
        | some (.table .passing inner) => some (replace key (.table .header inner) fields)
        | _ => none
      changeAt false opened keys.dropLast .header fields

/-- Open one more table of the header of a list of tables. -/
def openListed (keys : List String) (fields : Fields) : Option Fields :=
  match keys.getLast? with
  | none => none
  | some key =>
      let opened (_ : Origin) (fields : Fields) : Option Fields :=
        match item? key fields with
        | none => some (replace key (.tables [.table .header []]) fields)
        | some (.tables items) =>
            some (replace key (.tables (items ++ [.table .header []])) fields)
        | _ => none
      changeAt false opened keys.dropLast .header fields

mutual

/-- The value that an item amounts to. -/
def Item.finish : Item -> Value
  | .value value => value
  | .table _ fields => .table (finishFields fields)
  | .tables items => .list (finishItems items)

/-- The values that items amount to. -/
def finishItems : List Item -> List Value
  | [] => []
  | item :: items => item.finish :: finishItems items

/-- The table that fields amount to. -/
def finishFields : List (String × Item) -> Table
  | [] => []
  | (key, item) :: fields => putField key item.finish (finishFields fields)

end

end Toml
end Config
end ConfigWiring
