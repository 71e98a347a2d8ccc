import ConfigWiring.Decimal.Basic
import ConfigWiring.Template.Argument
import ConfigWiring.Template.Fault
import ConfigWiring.Template.Json
import ConfigWiring.Template.TextFilter

/-!
# Filters

A filter turns a value into another one, with arguments given by name.  It fails on
values and arguments of the wrong kind, and so does a name that is none of a filter.
Some filters on lists look at an attribute of each item, which a chain of names between
points leads to; the empty chain leads to the item itself.
-/

namespace ConfigWiring
namespace Template

/-! ## Filters on lists -/

namespace ListFilter

open Text

/-- The attribute of an item. -/
def memberAt? (chain : List Char) (item : Value) : Option Value :=
  if chain.isEmpty then some item
  else item.follow? ((splitAll '.' chain).map String.ofList)

/-- The attribute of an item, where a missing one is no value. -/
def memberOr (chain : List Char) (item : Value) : Value :=
  (memberAt? chain item).getD .null

/-- The items in the order of their keys; equal keys keep their order. -/
def sortedBy {key : Type} (before : key -> key -> Bool) (keyed : List (key × Value)) :
    List Value :=
  (keyed.mergeSort fun left right => !before right.1 left.1).map Prod.snd

/-- The keys of items with the items, if all keys are of one kind. -/
def keyed? {key : Type} (read? : Value -> Option key) (items : List (Value × Value)) :
    Option (List (key × Value)) :=
  items.mapM fun (found, item) => (read? found).map fun key => (key, item)

/-- The items in the order of an attribute: numbers and texts by their order, lists by
their length, and false before true.  The first item tells the kind. -/
def sort? (chain : List Char) (items : List Value) : Option (List Value) := do
  let pairs ← items.mapM fun item => (memberAt? chain item).map fun found => (found, item)
  match pairs.head?.map Prod.fst with
  | none => some []
  | some (.int _) | some (.float _) =>
      (keyed? Value.number? pairs).map (sortedBy fun left right => left < right)
  | some (.text _) =>
      (keyed? (fun | .text text => some text | _ => none) pairs).map
        (sortedBy fun left right => left < right)
  | some (.bool _) => (keyed? Argument.flag? pairs).map (sortedBy fun left right => !left && right)
  | some (.list _) =>
      (keyed? (fun found => (Argument.list? found).map List.length) pairs).map
        (sortedBy fun left right => left < right)
  | some _ => none

/-- The key by which values of the kind of the first are told apart; values of other
kinds have none. -/
def distinctKey? (caseSensitive : Bool) (first value : Value) : Option Value :=
  match first, value with
  | .bool _, .bool value => some (.bool value)
  | .int _, .int value => some (.int value)
  | .text _, .text text => some (.text (if caseSensitive then text else lowerText text))
  | _, _ => none

/-- The items that have the attribute, without later ones of equal keys. -/
def unique? (caseSensitive : Bool) (chain : List Char) (items : List Value) :
    Option (List Value) :=
  match items with
  | [] => some []
  | head :: _ => do
      let first ← memberAt? chain head
      let pairs := items.filterMap fun item =>
        (memberAt? chain item).map fun found => (found, item)
      let keyed ← keyed? (distinctKey? caseSensitive first) pairs
      some (distinct [] keyed)
where
  /-- The items whose keys are not among those seen. -/
  distinct (seen : List Value) : List (Value × Value) -> List Value
    | [] => []
    | (key, item) :: rest =>
        if seen.contains key then distinct seen rest else item :: distinct (key :: seen) rest

/-- The items in lists by the text of an attribute; items without it are left out. -/
def groupBy (chain : List Char) (items : List Value) : Named :=
  items.foldl (fun groups item =>
    match memberOr chain item with
    | .null => groups
    | found =>
        let name := match found with | .text text => text | other => Json.compact other
        match groups.lookup name with
        | some (.list held) => bindName name (.list (held ++ [item])) groups
        | _ => bindName name (.list [item]) groups) []

/-- A place in a list, counted from its end if negative. -/
def placeIn (length : Nat) (place : Float) : Nat :=
  (if place < 0 then Float.ofNat length + place else place).toUInt64.toNat

/-- The items from one place up to another. -/
def slice (start stop? : Option Float) (items : List Value) : List Value :=
  let first := (start.map (placeIn items.length)).getD 0
  let final := min ((stop?.map (placeIn items.length)).getD items.length) items.length
  if first ≥ final then [] else (items.take final).drop first

/-- A number as an argument that may be missing. -/
def place? (name : String) (arguments : Named) : Option (Option Float) :=
  Argument.orElse? (fun value => value.number?.map some) none name arguments

/-- Apply a filter to the items of a list. -/
def onItems? (name : String) (arguments : Named) (items : List Value) : Option Value :=
  let chain? := Argument.required? Argument.text? "attribute" arguments
  let chainOrSelf? := Argument.orElse? Argument.text? [] "attribute" arguments
  let some? := fun (result : Option Value) => if items.isEmpty then some (.list []) else result
  match name with
  | "first" => some (items.head?.getD (.text ""))
  | "last" => some (items.getLast?.getD (.text ""))
  | "nth" =>
      if items.isEmpty then some (.text "")
      else (Argument.required? Argument.count? "n" arguments).map fun place =>
        (items[place]?).getD (.text "")
  | "join" =>
      (Argument.orElse? Argument.text? [] "sep" arguments).map fun separator =>
        .text (String.intercalate (String.ofList (TextFilter.unescaped separator))
          (items.map Value.written))
  | "sort" => some? ((chainOrSelf?.bind fun chain => sort? chain items).map .list)
  | "unique" => some? do
      let caseSensitive ← Argument.orElse? Argument.flag? false "case_sensitive" arguments
      let chain ← chainOrSelf?
      (unique? caseSensitive chain items).map .list
  | "group_by" =>
      if items.isEmpty then some (.record [])
      else chain?.map fun chain => .record (groupBy chain items)
  | "filter" => some? (chain?.map fun chain =>
      match (arguments.lookup "value").getD .null with
      | .null => .list (items.filter fun item => memberOr chain item != .null)
      | wanted => .list (items.filter fun item => memberOr chain item == wanted))
  | "map" => some? (chain?.map fun chain =>
      .list ((items.map (memberOr chain)).filter (· != .null)))
  | "concat" =>
      (arguments.lookup "with").map fun
        | .list others => .list (items ++ others)
        | other => .list (items ++ [other])
  | "slice" => some? do
      let start ← place? "start" arguments
      let stop ← place? "end" arguments
      some (.list (slice start stop items))
  | _ => none

/-- Apply a filter on lists. -/
def filtered? (name : String) (arguments : Named) : Value -> Option Value
  | .list items => onItems? name arguments items
  | _ => none

end ListFilter

/-! ## Filters on values -/

open Text

/-- The result of an operation, or the fault of a template that asks for what it does not
have. -/
def orFault {result : Type} : Option result -> Except Fault result
  | some value => .ok value
  | none => .error .unfillable

namespace Filter

/-- A number or a text as an integer. -/
def toInt? (arguments : Named) (value : Value) : Option Value := do
  let fallback ← Argument.orElse? Argument.int? 0 "default" arguments
  let base ← Argument.orElse? (Argument.intFrom? 0 (Int.pow 2 32 - 1)) 10 "base" arguments
  match value with
  | .text text =>
      let body := TextFilter.behindBaseMark base.toNat (trim text.toList)
      if base < 2 || 36 < base then none
      else
        match TextFilter.readInBase? base.toNat body with
        | some number => some (.int number)
        | none =>
            match (if body.contains '.' then Decimal.readFloat? body else none) with
            | some number => some (.int (Decimal.truncated number))
            | none => some (.int fallback)
  | value => value.number?.map fun number => .int (Decimal.truncated number)

/-- A number or a text as a floating-point number. -/
def toFloat? (arguments : Named) (value : Value) : Option Value := do
  let fallback ← Argument.orElse? Value.number? 0.0 "default" arguments
  match value with
  | .text text => some (.ofFloat ((Decimal.readFloat? (trim text.toList)).getD fallback))
  | value => value.number?.map .float

/-- The ending of a word for a number of things. -/
def pluralize? (arguments : Named) (value : Value) : Option Value := do
  let number ← value.number?
  let plural ← Argument.orElse? Argument.text? ['s'] "plural" arguments
  let singular ← Argument.orElse? Argument.text? [] "singular" arguments
  let one := !((number.abs - 1.0).abs > Float.ofScientific 2220446049250313 true 31)
  some (.text (String.ofList (if one then singular else plural)))

/-- A number rounded to a place. -/
def round? (arguments : Named) (value : Value) : Option Value := do
  let number ← value.number?
  let method ← Argument.orElse? Argument.text? "common".toList "method" arguments
  let precision ← Argument.orElse? (Argument.intFrom? (-Int.pow 2 31) (Int.pow 2 31 - 1)) 0
    "precision" arguments
  let scale := if precision = 0 then 1.0 else Decimal.powerOfTen precision
  let rounded ← match String.ofList method with
    | "common" => some (scale * number).round
    | "ceil" => some (scale * number).ceil
    | "floor" => some (scale * number).floor
    | _ => none
  some (.ofFloat (rounded / scale))

/-- The filters on numbers. -/
def onNumber? (name : String) (arguments : Named) (value : Value) : Option Value :=
  match name with
  | "int" => toInt? arguments value
  | "float" => toFloat? arguments value
  | "pluralize" => pluralize? arguments value
  | "round" => round? arguments value
  | "abs" =>
      match value with
      | .int number => some (.int number.natAbs)
      | .float number => some (.float number.abs)
      | _ => none
  | _ => none

/-- The filters on values of several kinds. -/
def onAny? (name : String) (arguments : Named) (value : Value) : Option Value :=
  match name, value with
  | "length", .list items => some (.int items.length)
  | "length", .record fields => some (.int fields.length)
  | "length", .text text => some (.int text.length)
  | "reverse", .list items => some (.list items.reverse)
  | "reverse", .text text => some (.text (String.ofList text.toList.reverse))
  | "get", .record fields =>
      (Argument.required? Argument.text? "key" arguments).bind fun key =>
        (fields.lookup (String.ofList key)).or (arguments.lookup "default")
  | "as_str", value => some (.text value.written)
  | "json_encode", value =>
      some (.text (match arguments.lookup "pretty" with
        | some (.bool true) => Json.laidOut value
        | _ => Json.compact value))
  | _, _ => none

/-- Apply a filter. -/
def apply (name : String) (arguments : Named) (value : Value) : Except Fault Value :=
  orFault (((TextFilter.filtered? name arguments value).or
    (ListFilter.filtered? name arguments value)).or
      ((onNumber? name arguments value).or (onAny? name arguments value)))

end Filter

end Template
end ConfigWiring
