import TopicReader.Path
import TopicReader.Text.Quoted
import TopicReader.Number.DoubleText
import TopicReader.Value.Basic

/-!
# `Value.Text` — values as text

## Contents
- **Shown.** `Value.shown`: a value on its own, so that a text is itself.
- **Quoted.** `Value.quoted`: a value inside another one, so that a text stands in quotes.
- **Messages.** `formatMessage`: a message whose marks are filled in with values.
-/

namespace TopicReader

open TopicReader.Text

/-- Parts with `, ` between them. -/
def commaJoin : List String → String
  | [] => ""
  | [part] => part
  | part :: parts => part ++ ", " ++ commaJoin parts

/-- The text of a truth value. -/
def boolText (b : Bool) : String := if b then "True" else "False"

/-- The text of an integer. -/
def intText (n : Int) : String :=
  if n < 0 then "-" ++ n.natAbs.repr else n.natAbs.repr

namespace Value

/-- The quoted form of a date. -/
def quotedDate (d : Date) : String :=
  "datetime.date(" ++ commaJoin [d.year.repr, d.month.repr, d.day.repr] ++ ")"

/-- The quoted form of a distance from universal time. -/
def quotedZone (z : Int) : String :=
  if z = 0 then "datetime.timezone.utc"
  else
    let days := if z < 0 then ["days=-1"] else []
    let rest := z % 86400
    let seconds := if rest = 0 then [] else ["seconds=" ++ intText rest]
    "datetime.timezone(datetime.timedelta(" ++ commaJoin (days ++ seconds) ++ "))"

/-- The quoted form of a time; seconds and microseconds are left out from the end while zero. -/
def quotedTime (t : DateTime) : String :=
  let small :=
    if t.micro ≠ 0 then [t.second.repr, t.micro.repr]
    else if t.second ≠ 0 then [t.second.repr] else []
  let zone :=
    match t.zone with
    | none => []
    | some z => ["tzinfo=" ++ quotedZone z]
  "datetime.datetime(" ++ commaJoin ([t.date.year.repr, t.date.month.repr, t.date.day.repr,
    t.hour.repr, t.minute.repr] ++ small ++ zone) ++ ")"

/-- The quoted form of a sequence of items that are quoted already. -/
def quotedTuple (items : List String) : String :=
  match items with
  | [item] => "(" ++ item ++ ",)"
  | items => "(" ++ commaJoin items ++ ")"

/-- The quoted form of a set of items that are quoted already. -/
def quotedSet (frozen : Bool) (items : List String) : String :=
  if items.isEmpty then (if frozen then "frozenset()" else "set()")
  else
    let body := "\x7b" ++ commaJoin items ++ "\x7d"
    if frozen then "frozenset(" ++ body ++ ")" else body

mutual

/-- A value as it stands inside another value. -/
def quoted (v : Value) : String :=
  match v with
  | .null => "None"
  | .bool b => boolText b
  | .int n => intText n
  | .float x => x.text
  | .text s => quoteText s
  | .bytes growable bs =>
    if growable then "bytearray(" ++ quoteGrowableBytes bs ++ ")" else quoteBytes bs
  | .list xs => "[" ++ commaJoin (quotedAll xs) ++ "]"
  | .tuple xs => quotedTuple (quotedAll xs)
  | .set frozen xs => quotedSet frozen (quotedAll xs)
  | .map es => "\x7b" ++ commaJoin (quotedPairs es) ++ "\x7d"
  | .date d => quotedDate d
  | .time t => quotedTime t
  | .path p => "PosixPath(" ++ quoteText p ++ ")"
  | .category c => c.quoted
  | .offset o => o.quoted
  | .foreign _ q => q

/-- The items of a sequence, quoted. -/
def quotedAll (xs : List Value) : List String :=
  match xs with
  | [] => []
  | x :: rest => quoted x :: quotedAll rest

/-- The entries of a mapping, quoted. -/
def quotedPairs (es : List (Value × Value)) : List String :=
  match es with
  | [] => []
  | (k, v) :: rest => (quoted k ++ ": " ++ quoted v) :: quotedPairs rest

end

/-- A value on its own. -/
def shown : Value → String
  | .text s => s
  | .date d => d.iso
  | .time t => t.isoWith ' '
  | .path p => p
  | .category c => c.name
  | .offset o => o.text
  | .foreign s _ => s
  | v => v.quoted

/-- The word for the kind of a value. -/
def kindWord : Value → String
  | .null => "NoneType"
  | .bool _ => "bool"
  | .int _ => "int"
  | .float _ => "float"
  | .text _ => "str"
  | .bytes growable _ => if growable then "bytearray" else "bytes"
  | .list _ => "list"
  | .tuple _ => "tuple"
  | .set frozen _ => if frozen then "frozenset" else "set"
  | .map _ => "dict"
  | .date _ => "datetime.date"
  | .time _ => "datetime.datetime"
  | .path _ => "PosixPath"
  | .category _ => "ErrorCategory"
  | .offset o => String.ofList (o.quoted.toList.takeWhile (· != '('))
  | .foreign _ q => String.ofList (q.toList.takeWhile (· != '('))

end Value

/-! ## Messages -/

/-- An integer for the mark that asks for one: a float loses its fraction. -/
def wholeArgument : Value → Option String
  | .bool b => some (if b then "1" else "0")
  | .int n => some (intText n)
  | .float x => x.toInt?.map intText
  | _ => none

/-- Why a message cannot be formed. -/
inductive MessageFault where
  | unfit
  | notNumber
  | infinite
deriving DecidableEq, Repr

/-- The text of an argument for the mark that asks for an integer. -/
def wholeText (v : Value) : Except MessageFault String :=
  match v with
  | .float (.nan _) => .error .notNumber
  | .float (.infinite _) => .error .infinite
  | v =>
    match wholeArgument v with
    | some digits => .ok digits
    | none => .error .unfit

/-- Fill in the marks of a message: `%s` shows a value, `%d` an integer, and `%%` is a percent sign.
    There is no message if a mark does not fit its value or, unless `spare`, a value is left over. -/
def fillMarks (spare : Bool) : List Char → List Value → Except MessageFault (List Char)
  | [], [] => .ok []
  | [], _ :: _ => if spare then .ok [] else .error .unfit
  | '%' :: '%' :: rest, args => (fillMarks spare rest args).map ('%' :: ·)
  | '%' :: 's' :: rest, arg :: args => (fillMarks spare rest args).map (arg.shown.toList ++ ·)
  | '%' :: 'd' :: rest, arg :: args => do
    let digits ← wholeText arg
    let more ← fillMarks spare rest args
    return digits.toList ++ more
  | '%' :: _, _ => .error .unfit
  | c :: rest, args => (fillMarks spare rest args).map (c :: ·)

/-- A message with its arguments; without any, percent signs are nothing special. A mapping that is the
    only argument may be left over. -/
def formatMessage (msg : String) (args : List Value) : Except MessageFault String :=
  match args with
  | [] => .ok msg
  | [.map (e :: es)] => (fillMarks true msg.toList [.map (e :: es)]).map String.ofList
  | args => (fillMarks false msg.toList args).map String.ofList

end TopicReader
