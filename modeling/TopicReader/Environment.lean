import TopicReader.Value.Basic

/-!
# `Environment` — variables, and the references to them in settings

## Contents
- **Variables.** `Environment`, with `get?`, `getOr` and `putNew`.
- **References.** `Reference`: a name in braces after a dollar sign, with or without a default;
  `Reference.ofChars?` finds one at the front of a text.
- **Expansion.** `expandText` replaces every reference once, from left to right; `Value.expand` does so in
  every text of a value, but not in keys.
-/

namespace TopicReader

/-- The variables of the environment. -/
abbrev Environment := List (String × String)

namespace Environment

/-- The value of a variable. -/
def get? (env : Environment) (name : String) : Option String :=
  (env.find? fun v => v.1 == name).map (·.2)

/-- The value of a variable, or `other` if it is not set. -/
def getOr (env : Environment) (name other : String) : String := (env.get? name).getD other

/-- Set a variable unless it is set already. -/
def putNew (env : Environment) (name value : String) : Environment :=
  if (env.get? name).isSome then env else env ++ [(name, value)]

end Environment

/-! ## References -/

/-- A reference to a variable. -/
structure Reference where
  name : List Char
  fallback : Option (List Char)
deriving DecidableEq, Repr

namespace Reference

/-- How a reference is written. -/
def text (r : Reference) : List Char :=
  '$' :: '\x7b' :: r.name ++
    (match r.fallback with
     | none => []
     | some d => ':' :: '-' :: d) ++ ['\x7d']

/-- A character of a name. -/
def isNameChar (c : Char) : Bool := c != '\x7d' && c != ':'

/-- What follows a name: the end of the reference, or a default and then the end. -/
def ofTail? (name : List Char) : List Char → Option Reference
  | '\x7d' :: _ => some ⟨name, none⟩
  | ':' :: '-' :: rest =>
    if rest.contains '\x7d' then some ⟨name, some (rest.takeWhile (· != '\x7d'))⟩ else none
  | _ => none

/-- The reference at the front of a text. -/
def ofChars? : List Char → Option Reference
  | '$' :: '\x7b' :: rest =>
    let name := rest.takeWhile isNameChar
    if name.isEmpty then none else ofTail? name (rest.dropWhile isNameChar)
  | _ => none

/-- What a reference stands for: the variable, else its default, else the reference itself. -/
def value (env : Environment) (r : Reference) : List Char :=
  match env.get? (String.ofList r.name) with
  | some v => v.toList
  | none => r.fallback.getD r.text

end Reference

/-! ## Expansion -/

/-- Replace the references of a text, after passing over `skip` characters. -/
def expandChars (env : Environment) (skip : Nat) : List Char → List Char
  | [] => []
  | c :: rest =>
    match skip with
    | n + 1 => expandChars env n rest
    | 0 =>
      match Reference.ofChars? (c :: rest) with
      | some r => r.value env ++ expandChars env (r.text.length - 1) rest
      | none => c :: expandChars env 0 rest

/-- Replace the references of a text. -/
def expandText (env : Environment) (s : String) : String :=
  String.ofList (expandChars env 0 s.toList)

namespace Value

mutual

/-- Replace the references in every text of a value; keys stay as they are. -/
def expand (env : Environment) (v : Value) : Value :=
  match v with
  | .text s => .text (expandText env s)
  | .list xs => .list (expandAll env xs)
  | .map es => .map (expandEntries env es)
  | v => v

/-- Replace the references in every item. -/
def expandAll (env : Environment) (xs : List Value) : List Value :=
  match xs with
  | [] => []
  | x :: rest => expand env x :: expandAll env rest

/-- Replace the references in the value of every entry. -/
def expandEntries (env : Environment) (es : List (Value × Value)) : List (Value × Value) :=
  match es with
  | [] => []
  | (k, v) :: rest => (k, expand env v) :: expandEntries env rest

end

end Value

end TopicReader
