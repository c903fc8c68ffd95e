import TopicReader.Value.Convert
import TopicReader.Text.Utf8

/-!
# `Json` — JSON documents on one line

## Contents
- **The type.** `Json`, with objects as ordered pairs.
- **From values.** `Value.simplify` turns what JSON has no form for into what it has; `Value.toJson` is the
  document of a value, if its keys allow one.
- **Text.** `Json.render`: one line, `, ` between items and `: ` after names, only controls escaped.
-/

namespace TopicReader

open TopicReader.Text

/-- A JSON document. Integers and floats are told apart. -/
inductive Json where
  | null
  | bool (b : Bool)
  | int (n : Int)
  | float (x : Double)
  | text (s : String)
  | array (items : List Json)
  | object (members : List (String × Json))
deriving Repr, Inhabited

namespace Json

/-! ## Text -/

/-- One character inside a JSON text. -/
def escapeChar (c : Char) : List Char :=
  if c = doubleQuote then [backslash, doubleQuote]
  else if c = backslash then [backslash, backslash]
  else if c = '\n' then [backslash, 'n']
  else if c = '\r' then [backslash, 'r']
  else if c = '\t' then [backslash, 't']
  else if c.toNat = 0xc then [backslash, 'f']
  else if c.toNat = 0x8 then [backslash, 'b']
  else if c.toNat < 0x20 then backslash :: 'u' :: hexPadded 4 c.toNat
  else [c]

/-- A JSON text in quotes. -/
def renderText (s : String) : String :=
  String.ofList (doubleQuote :: s.toList.flatMap escapeChar ++ [doubleQuote])

/-- A float; the ones that are not finite are named. -/
def renderFloat : Double → String
  | .nan _ => "NaN"
  | .infinite n => if n then "-Infinity" else "Infinity"
  | x => x.text

mutual

/-- A document on one line. -/
def render (j : Json) : String :=
  match j with
  | .null => "null"
  | .bool b => if b then "true" else "false"
  | .int n => intText n
  | .float x => renderFloat x
  | .text s => renderText s
  | .array items => "[" ++ commaJoin (renderAll items) ++ "]"
  | .object members => "\x7b" ++ commaJoin (renderMembers members) ++ "\x7d"

/-- The items of an array. -/
def renderAll (items : List Json) : List String :=
  match items with
  | [] => []
  | j :: rest => render j :: renderAll rest

/-- The members of an object. -/
def renderMembers (members : List (String × Json)) : List String :=
  match members with
  | [] => []
  | (name, j) :: rest => (renderText name ++ ": " ++ render j) :: renderMembers rest

end

end Json

/-! ## From values -/

namespace Value

/-- A value that JSON has no form for, as one that it has. -/
def simplify : Value → Except Failure Value
  | .date d => .ok (.text d.iso)
  | .time t => .ok (.text t.iso)
  | .path p => .ok (.text p)
  | .category c => .ok (.text c.word)
  | .bytes _ bs => .ok (.text (Utf8.decodeLossy bs))
  | .set _ xs => (sortValues xs).map .list
  | .tuple xs => .ok (.list xs)
  | v => v.showChecked.map .text

/-- A key of a mapping as the name of a member. -/
def memberName : Value → Except Failure String
  | .text s => .ok s
  | .int n => if longBound ≤ n.natAbs then .error tooLong else .ok (intText n)
  | .float x => .ok (Json.renderFloat x)
  | .bool b => .ok (if b then "true" else "false")
  | .null => .ok "null"
  | v =>
    .error (.mishap .wrongKind
      ("keys must be str, int, float, bool or None, not " ++ v.kindWord))

/-- The results of some steps in order, or the failure of the first one that fails. -/
def inTurn {α : Type} : List (Except Failure α) → Except Failure (List α)
  | [] => .ok []
  | step :: rest => do return (← step) :: (← inTurn rest)

mutual

/-- The document of a value. The items of a set are put in order before any of them is looked into. -/
def toJson (v : Value) : Except Failure Json :=
  match v with
  | .null => .ok .null
  | .bool b => .ok (.bool b)
  | .int n => if longBound ≤ n.natAbs then .error tooLong else .ok (.int n)
  | .float x => .ok (.float x)
  | .text s => .ok (.text s)
  | .list xs => (inTurn (toJsonAll xs)).map .array
  | .tuple xs => (inTurn (toJsonAll xs)).map .array
  | .set _ xs => do
    let ordered ← sortOn (fun p => p.1) (xs.zip (toJsonAll xs))
    return .array (← inTurn (ordered.map (·.2)))
  | .map es => (toJsonMembers es).map .object
  | .date d => .ok (.text d.iso)
  | .time t => .ok (.text t.iso)
  | .path p => .ok (.text p)
  | .category c => .ok (.text c.word)
  | .bytes _ bs => .ok (.text (Utf8.decodeLossy bs))
  | .offset o => if (Value.offset o).holdsLong then .error tooLong else .ok (.text o.text)
  | .foreign s _ => .ok (.text s)

/-- The document of every item. -/
def toJsonAll (xs : List Value) : List (Except Failure Json) :=
  match xs with
  | [] => []
  | x :: rest => toJson x :: toJsonAll rest

/-- The members of a mapping. -/
def toJsonMembers (es : List (Value × Value)) : Except Failure (List (String × Json)) :=
  match es with
  | [] => .ok []
  | (k, v) :: rest => do
    let name ← memberName k
    return (name, ← toJson v) :: (← toJsonMembers rest)

end

end Value

end TopicReader
