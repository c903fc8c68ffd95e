import TopicReader.Text.Blank

/-!
# `Connection.Servers` — the servers that an address list names

## Contents
- **Items.** `items`: the pieces between commas and blanks.
- **One item.** `Address`: the scheme of an item, if it has one, and what it names.
- **The list.** `serversOf`: the servers joined by commas, and whether a scheme asks for encryption.
-/

namespace TopicReader.Connection

open TopicReader.Text

/-- The pieces of an address list. -/
def items (url : String) : List (List Char) := splitAtAny (fun c => c == ',' || isBlank c) url.toList

/-- An item of an address list. -/
structure Address where
  scheme : Option (List Char)
  server : List Char
deriving DecidableEq, Repr

/-- The marks after a scheme. -/
def schemeMark : List Char := "://".toList

/-- A server without the slashes at its end. -/
def dropSlashes (cs : List Char) : List Char := (cs.reverse.dropWhile (· == '/')).reverse

/-- The address that an item spells. -/
def Address.ofItem (item : List Char) : Address :=
  match cutAt schemeMark item with
  | some (scheme, rest) => ⟨some scheme, dropSlashes rest⟩
  | none => ⟨none, dropSlashes item⟩

/-- Does the scheme ask for encryption? -/
def Address.encrypted (a : Address) : Bool :=
  match a.scheme with
  | some s => "ssl".toList.isSuffixOf s
  | none => false

/-- Texts with commas between them. -/
def joinCommas : List (List Char) → List Char
  | [] => []
  | [part] => part
  | part :: parts => part ++ ',' :: joinCommas parts

/-- The servers of an address list, and whether any of them asks for encryption. -/
def serversOf (url : String) : String × Bool :=
  let addresses := (items url).map Address.ofItem
  (String.ofList (joinCommas (addresses.map (·.server))), addresses.any (·.encrypted))

end TopicReader.Connection
