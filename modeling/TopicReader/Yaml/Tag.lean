import TopicReader.Yaml.Stamp

/-!
# `Yaml.Tag` — the kinds of node, and the kind that a plain scalar's text implies

## Contents
- **The type.** `Tag`, and `Tag.ofName` for the long names that documents may give.
- **Number forms.** `isIntForm`, `isFloatForm`: signs, bases, underscores and groups of sixty.
- **Implied.** `Tag.ofPlain`: the kind of a plain scalar.
-/

namespace TopicReader.Yaml

open TopicReader.Text

/-- The kind of a node. -/
inductive Tag where
  | null
  | bool
  | int
  | float
  | binary
  | timestamp
  | ordered
  | pairs
  | set
  | text
  | sequence
  | mapping
  | merge
  | value
  | other
deriving DecidableEq, Repr, Inhabited

namespace Tag

/-- What the long names of the known kinds start with. -/
def home : String := "tag:yaml.org,2002:"

/-- The known kinds by the last part of their names. -/
def known : List (String × Tag) :=
  [("null", null), ("bool", bool), ("int", int), ("float", float), ("binary", binary),
   ("timestamp", timestamp), ("omap", ordered), ("pairs", pairs), ("set", set), ("str", text),
   ("seq", sequence), ("map", mapping), ("merge", merge), ("value", value)]

/-- The kind that a long name stands for. -/
def ofName (name : String) : Tag :=
  ((known.find? fun k => home ++ k.1 == name).map (·.2)).getD other

/-! ## Number forms -/

/-- Drop a sign in front. -/
def dropSign : List Char → List Char
  | '-' :: rest => rest
  | '+' :: rest => rest
  | cs => cs

/-- A digit below the base, or an underscore. -/
def isGrouped (base : Nat) (c : Char) : Bool :=
  c == '_' || (c.isAlphanum && ((baseDigitValue c).map (decide <| · < base)).getD false)

/-- Not empty, and every character has the property. -/
def isRunOf (p : Char → Bool) (cs : List Char) : Bool := !cs.isEmpty && cs.all p

/-- A decimal digit, and then digits and underscores. -/
def startsWithDigit (cs : List Char) : Bool :=
  match cs with
  | c :: rest => isAsciiDigit c && rest.all (isGrouped 10)
  | [] => false

/-- One or two digits of a group of sixty. -/
def isSixtieth (cs : List Char) : Bool :=
  match cs with
  | [a] => isAsciiDigit a
  | [a, b] => '0' ≤ a && a ≤ '5' && isAsciiDigit b
  | _ => false

/-- A number and then at least one group of sixty. -/
def isSexagesimal (cs : List Char) : Bool :=
  match splitWhere (· == ':') cs with
  | whole :: groups => startsWithDigit whole && !groups.isEmpty && groups.all isSixtieth
  | [] => false

/-- The form of an integer. -/
def isIntForm (cs : List Char) : Bool :=
  let body := dropSign cs
  match body with
  | ['0'] => true
  | '0' :: 'b' :: rest => isRunOf (isGrouped 2) rest
  | '0' :: 'x' :: rest => isRunOf (isGrouped 16) rest
  | '0' :: rest => isRunOf (isGrouped 8) rest
  | _ => startsWithDigit body || isSexagesimal body

/-- Nothing, or an exponent with its sign. -/
def isExponent (cs : List Char) : Bool :=
  match cs with
  | [] => true
  | e :: sign :: rest =>
    (e == 'e' || e == 'E') && (sign == '-' || sign == '+') && isRunOf isAsciiDigit rest
  | _ => false

/-- The form of a float: there is a point, and an exponent has a sign. -/
def isFloatForm (cs : List Char) : Bool :=
  let body := dropSign cs
  let whole := body.takeWhile (· != '.')
  match body.drop whole.length with
  | '.' :: rest =>
    let exponent := rest.dropWhile (isGrouped 10)
    if whole.isEmpty then
      (isExponent exponent && startsWithDigit (rest.takeWhile (isGrouped 10)) && body == cs) ||
        ["inf".toList, "Inf".toList, "INF".toList].contains rest ||
        (["nan".toList, "NaN".toList, "NAN".toList].contains rest && body == cs)
    else
      (startsWithDigit whole && isExponent exponent) || (isSexagesimal whole && exponent.isEmpty)
  | _ => false

/-! ## Implied -/

/-- The words for truth values. -/
def boolWords : List String :=
  ["yes", "Yes", "YES", "no", "No", "NO", "true", "True", "TRUE", "false", "False", "FALSE",
   "on", "On", "ON", "off", "Off", "OFF"]

/-- The words for null. -/
def nullWords : List String := ["", "~", "null", "Null", "NULL"]

/-- The kind that the text of a plain scalar implies. A line feed at its end does not count, except for
    an otherwise empty text. -/
def ofPlain (s : String) : Tag :=
  let cs := s.toList
  let cs := if cs.getLast? = some '\n' ∧ cs.length ≠ 1 then cs.dropLast else cs
  let word := String.ofList cs
  if nullWords.contains word then null
  else if boolWords.contains word then bool
  else if isFloatForm cs then float
  else if isIntForm cs then int
  else if Stamp.isPlainForm cs then timestamp
  else if word == "<<" then merge
  else if word == "=" then value
  else if word == "!" || word == "&" || word == "*" then other
  else text

end Tag

end TopicReader.Yaml
