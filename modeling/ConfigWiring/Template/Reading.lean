import ConfigWiring.Template.Tag

/-!
# Reading templates

A template is read from left to right.  Values stand between double braces, tags
between a brace and a percent sign, comments between a brace and a number sign.  A
hyphen inside such a mark takes away the blanks of the text beside it; text that is to
be taken literally and the other case of a repetition keep theirs.
-/

namespace ConfigWiring
namespace Template
namespace Reading

open Text

/-- The text behind the closing mark of a value, a tag or a comment, and whether the
mark takes away the blanks behind it. -/
def closing? (mark : List Char) (text : List Char) : Option (Bool × List Char) :=
  match behind? ('-' :: mark) (skip text) with
  | some rest => some (true, rest)
  | none => (behind? mark (skip text)).map fun rest => (false, rest)

/-- The text behind the hyphen of an opening mark, and whether there is one. -/
def opened (text : List Char) : Bool × List Char :=
  match text with
  | '-' :: rest => (true, rest)
  | _ => (false, text)

/-- Whether a text begins with the opening mark of a value, a tag or a comment. -/
def opensMark : List Char -> Bool
  | '{' :: '{' :: _ => true
  | '{' :: '%' :: _ => true
  | '{' :: '#' :: _ => true
  | _ => false

/-- Whether the mark at the start of a text takes away the blanks before it. -/
def trimsBefore (text : List Char) : Bool := opensMark text && (text.drop 2).head? == some '-'

/-- The plain text at the start, and the rest. -/
def plainText : List Char -> List Char × List Char
  | [] => ([], [])
  | char :: rest =>
      if opensMark (char :: rest) then ([], char :: rest)
      else
        let (text, after) := plainText rest
        (char :: text, after)

/-- A text without the blanks that the marks on either side take away. -/
def trimmed (before after : Bool) (text : List Char) : List Char :=
  let start := if before then trimStart text else text
  if after then trimEnd start else start

/-- The end of a comment: whether it takes away the blanks behind it, and the text
behind it. -/
def commentEnd? : List Char -> Option (Bool × List Char)
  | '-' :: '#' :: '}' :: rest => some (true, rest)
  | '#' :: '}' :: rest => some (false, rest)
  | _ => none

/-- The end of a comment behind any number of characters. -/
def behindRemark? : List Char -> Option (Bool × List Char)
  | [] => none
  | char :: rest =>
      match commentEnd? (char :: rest) with
      | some found => some found
      | none => behindRemark? rest

/-- The end of a comment behind at least one character. -/
def behindComment? (text : List Char) : Option (Bool × List Char) :=
  if (commentEnd? text).isSome then none else behindRemark? text

/-- The text without the comments at its start. -/
def skipComments : Nat -> List Char -> Option (List Char)
  | 0, text => some text
  | bound + 1, text =>
      match text with
      | '{' :: '#' :: rest => (behindComment? (opened rest).2).bind fun (_, after) =>
          skipComments bound after
      | _ => some text

/-- The end tag of literal text at the start of a text: whether it takes away the
blanks before it, and those behind it, and the text behind it. -/
def endRaw? (text : List Char) : Option (Bool × Bool × List Char) :=
  match text with
  | '{' :: '%' :: rest =>
      let (before, inside) := opened rest
      (mark? "endraw" inside).bind fun body =>
        (closing? ['%', '}'] body).map fun (behind, after) => (before, behind, after)
  | _ => none

/-- The literal text up to its end tag. -/
def rawText? : List Char -> Option (List Char × Bool × Bool × List Char)
  | [] => none
  | char :: rest =>
      match endRaw? (char :: rest) with
      | some (before, behind, after) => some ([], before, behind, after)
      | none => (rawText? rest).map fun (text, found) => (char :: text, found)

/-- What may stand among the parts of a template. -/
structure Place where
  /-- Whether macros may be defined. -/
  macros : Bool
  /-- Whether blocks may stand there. -/
  blocks : Bool
  /-- Whether a repetition may be left. -/
  leaving : Bool
  deriving DecidableEq, Repr

namespace Place

/-- The parts that no other part contains. -/
def outermost : Place := ⟨true, true, false⟩

/-- The parts inside of a choice, a filter or a block of a place. -/
def inside (place : Place) : Place := { place with macros := false }

/-- The parts of a repetition. -/
def repetition : Place := ⟨false, false, true⟩

/-- The parts of a macro. -/
def macroBody : Place := ⟨false, false, false⟩

end Place

/-- What ends a sequence of parts: the end of the template, or a tag, with whether it
takes away the blanks before it and those behind it. -/
inductive Stop where
  | finish
  | tag (tag : Tag) (before behind : Bool)

/-- The parts with the blanks at the end of the last one taken away, if it is text. -/
def trimLast (trims : Bool) : Nodes -> Nodes
  | .cons (.text content) .nil =>
      if trims then .cons (.text (String.ofList (trimEnd content.toList))) .nil
      else .cons (.text content) .nil
  | .cons first rest => .cons first (trimLast trims rest)
  | .nil => .nil

mutual

/-- The parts up to the next tag that none of them contains; what ends them, and the
text behind it.  The flag tells whether blanks are taken away at their start. -/
def nodes? : Nat -> Place -> Bool -> List Char -> Option (Nodes × Stop × List Char)
  | 0, _, _, _ => none
  | bound + 1, place, trims, text =>
      match text with
      | [] => some (.nil, .finish, [])
      | '{' :: '#' :: rest =>
          (behindComment? (opened rest).2).bind fun (trims, after) =>
            following? bound place .remark trims after
      | '{' :: '{' :: rest =>
          (fitting? (expression? (opened rest).2)).bind fun (value, behind) =>
            (closing? ['}', '}'] behind).bind fun (trims, after) =>
              following? bound place (.shown value) trims after
      | '{' :: '%' :: rest =>
          let (before, inside) := opened rest
          match (mark? "raw" inside).bind (closing? ['%', '}']) with
          | some (trimsRaw, behind) =>
              (rawText? behind).bind fun (raw, endTrims, trims, after) =>
                (following? bound place .remark trims after).map fun (others, stop) =>
                  (.cons (.text (String.ofList (trimmed trimsRaw endTrims raw))) others, stop)
          | none =>
              (tag? inside).bind fun (tag, behind) =>
                (closing? ['%', '}'] behind).bind fun (trims, after) =>
                  tagged? bound place tag before trims after
      | _ =>
          let (content, after) := plainText text
          (nodes? bound place false after).map fun (others, stop) =>
            let ends := match others with
              | .nil => false
              | .cons _ _ => trimsBefore after
            (.cons (.text (String.ofList (trimmed trims ends content))) others, stop)

/-- A part, and the parts behind it. -/
def following? : Nat -> Place -> Node -> Bool -> List Char ->
    Option (Nodes × Stop × List Char)
  | 0, _, _, _, _ => none
  | bound + 1, place, first, trims, text =>
      (nodes? bound place trims text).map fun (rest, stop) => (.cons first rest, stop)

/-- The part that a tag begins, and the parts behind it; or the tag as what ends
the parts before it. -/
def tagged? : Nat -> Place -> Tag -> Bool -> Bool -> List Char ->
    Option (Nodes × Stop × List Char)
  | 0, _, _, _, _, _ => none
  | bound + 1, place, tag, before, trims, text =>
      match tag with
      | .define everywhere name value =>
          following? bound place (.define everywhere name value) trims text
      | .insert names optional => following? bound place (.insert names optional) trims text
      | .leave => if place.leaving then following? bound place .leave trims text else none
      | .skip => if place.leaving then following? bound place .skip trims text else none
      | .choose condition =>
          (choice? bound place.inside condition trims text).bind fun (node, trims, after) =>
            following? bound place node trims after
      | .repeat key item container =>
          (repeated? bound trims text).bind fun (body, otherwise, trims, after) =>
            following? bound place (.repeat key item container body otherwise) trims after
      | .filtered name arguments =>
          match nodes? bound place.inside trims text with
          | some (body, .tag .endFiltered ends trims, after) =>
              following? bound place (.filtered name arguments (trimLast ends body)) trims after
          | _ => none
      | .block name =>
          if !place.blocks then none
          else
            match nodes? bound place.inside trims text with
            | some (body, .tag .endBlock ends trims, after) =>
                following? bound place (.block name (trimLast ends body)) trims after
            | _ => none
      | .defineMacro name parameters =>
          if !place.macros then none
          else
            match nodes? bound .macroBody trims text with
            | some (body, .tag .endMacro ends trims, after) =>
                following? bound place (.defineMacro name parameters (trimLast ends body)) trims
                  after
            | _ => none
      | closing => some (.nil, .tag closing before trims, text)

/-- The parts of a repetition up to its end tag, and those for no turn at all, whose
text keeps its blanks on both sides. -/
def repeated? : Nat -> Bool -> List Char -> Option (Nodes × Nodes × Bool × List Char)
  | 0, _, _ => none
  | bound + 1, trims, text =>
      match nodes? bound .repetition trims text with
      | some (body, .tag .endRepeat ends trims, after) =>
          some (trimLast ends body, .nil, trims, after)
      | some (body, .tag .otherwise _ _, inside) =>
          match nodes? bound .repetition false inside with
          | some (otherwise, .tag .endRepeat ends trims, after) =>
              some (trimLast ends body, otherwise, trims, after)
          | _ => none
      | _ => none

/-- A choice behind its condition, up to its end tag. -/
def choice? : Nat -> Place -> Expr -> Bool -> List Char -> Option (Node × Bool × List Char)
  | 0, _, _, _, _ => none
  | bound + 1, place, condition, trims, text =>
      match nodes? bound place trims text with
      | some (body, .tag .endChoose ends trims, after) =>
          some (.choose condition (trimLast ends body) .nil, trims, after)
      | some (body, .tag .otherwise ends trims, inside) =>
          match nodes? bound place trims inside with
          | some (otherwise, .tag .endChoose lastEnds trims, after) =>
              some (.choose condition (trimLast ends body) (trimLast lastEnds otherwise), trims,
                after)
          | _ => none
      | some (body, .tag (.chooseElse next) ends trims, inside) =>
          (choice? bound place next trims inside).map fun (node, rest) =>
            (.choose condition (trimLast ends body) (.cons node .nil), rest)
      | _ => none

end

end Reading

/-- Whether no two of some names are equal. -/
def allDistinct (names : List String) : Bool := names.eraseDups.length == names.length

/-- Read a template.  Its macros have different names, and so have its blocks. -/
def parse (source : String) : Except Fault Nodes :=
  let text := source.toList
  match (Reading.skipComments text.length text).bind
      (Reading.nodes? (4 * text.length + 8) .outermost false) with
  | some (nodes, .finish, _) =>
      if allDistinct (nodes.macros.map Macro.name) && allDistinct (nodes.blocks.map Prod.fst) then
        .ok nodes
      else .error .malformed
  | _ => .error .malformed

end Template
end ConfigWiring
