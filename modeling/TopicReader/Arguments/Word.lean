import TopicReader.Arguments.Flag
import TopicReader.Delimiter
import TopicReader.Text.Blank

/-!
# `Arguments.Word` — the words of a command line

## Contents
- **Errors.** `UsageError`, one constructor a cause, and its wording.
- **Words.** `Word`: a plain word, the mark after which all words are plain, or an option, perhaps with a
  value in the same word.
- **Recognition.** `Word.ofText`: an exact name, a name before an equals sign, a name cut short, a letter with
  more behind it; a negative number and a word with a space in it are plain.
-/

namespace TopicReader

open TopicReader.Text

/-- A cause for refusing a command line. -/
inductive UsageError where
  | ambiguous (word : String) (names : List String)
  | spareValue (f : Flag) (value : String)
  | missingValue (f : Flag)
  | notInteger (f : Flag) (value : String)
  | badDelimiter (f : Flag) (message : String)
  | unknownWords (words : List String)
  | topicMissing
deriving DecidableEq, Repr, Inhabited

namespace UsageError

/-- A message about an option. -/
def about (f : Flag) (text : String) : String := "argument " ++ f.title ++ ": " ++ text

/-- The wording of a cause. -/
def message : UsageError → String
  | ambiguous w ns => "ambiguous option: " ++ w ++ " could match " ++ ", ".intercalate ns
  | spareValue f v => about f ("ignored explicit argument " ++ quoteText v)
  | missingValue f => about f "expected one argument"
  | notInteger f v => about f ("invalid int value: " ++ quoteText v)
  | badDelimiter f m => about f m
  | unknownWords ws => "unrecognized arguments: " ++ " ".intercalate ws
  | topicMissing => "topic missing"

end UsageError

/-- A word of a command line. -/
inductive Word where
  | plain (text : String)
  | mark
  | unknown (text : String)
  | option (f : Flag) (name : String) (attached : Option String)
deriving DecidableEq, Repr, Inhabited

namespace Word

/-- Digits only, and at least one of them. -/
def isDigits (cs : List Char) : Bool := !cs.isEmpty && cs.all fun c => (digitValue c).isSome

/-- Digits with a point, and at least one digit after the point. -/
def isFraction (cs : List Char) : Bool :=
  match cs.dropWhile fun c => (digitValue c).isSome with
  | '.' :: rest => isDigits rest
  | _ => false

/-- The text without one line break at its end. -/
def dropBreak (cs : List Char) : List Char := if cs.getLast? = some '\n' then cs.dropLast else cs

/-- Does a text after a dash look like a number? -/
def isNumber (cs : List Char) : Bool := isDigits (dropBreak cs) || isFraction (dropBreak cs)

/-- The options that a word after two dashes may mean: a name before an equals sign may be cut short. -/
def longMatches (cs : List Char) : List Word :=
  match cutAt ['='] cs with
  | some (start, value) =>
    (Flag.startingWith start).map fun w => .option w.2 w.1 (some (String.ofList value))
  | none => (Flag.startingWith cs).map fun w => .option w.2 w.1 none

/-- The options that a word after one dash may mean: the letter, with the rest attached. -/
def shortMatches (cs : List Char) : List Word :=
  Flag.written.filterMap fun w =>
    if w.1.toList = cs.take 2 then some (.option w.2 w.1 (some (String.ofList (cs.drop 2))))
    else if cs.isPrefixOf w.1.toList then some (.option w.2 w.1 none)
    else none

/-- The options that a word may mean. -/
def candidates (cs : List Char) : List Word :=
  match cs with
  | _ :: '-' :: _ => longMatches cs
  | _ => shortMatches cs

/-- The name of an option that a word may mean. -/
def optionName : Word → String
  | .option _ name _ => name
  | _ => ""

/-- The option with a name before an equals sign. -/
def withValue? (cs : List Char) : Option Word :=
  match cutAt ['='] cs with
  | some (name, value) =>
    (Flag.ofName? (String.ofList name)).map fun f =>
      .option f (String.ofList name) (some (String.ofList value))
  | none => none

/-- A word that starts with a dash and is no exact name. -/
def ofDashed (text : String) (cs : List Char) : Except UsageError Word :=
  match candidates cs with
  | [w] => .ok w
  | [] =>
    if isNumber (cs.drop 1) || cs.contains ' ' then .ok (.plain text) else .ok (.unknown text)
  | ws => .error (.ambiguous text (ws.map optionName))

/-- The word that a text is. -/
def ofText (text : String) : Except UsageError Word :=
  match text.toList with
  | '-' :: c :: rest =>
    match Flag.ofName? text with
    | some f => .ok (.option f text none)
    | none =>
      match withValue? ('-' :: c :: rest) with
      | some w => .ok w
      | none => ofDashed text ('-' :: c :: rest)
  | _ => .ok (.plain text)

/-- The words of a command line. -/
def ofTexts : List String → Except UsageError (List Word)
  | [] => .ok []
  | t :: rest =>
    if t = "--" then .ok (.mark :: rest.map .plain)
    else do
      let w ← ofText t
      return w :: (← ofTexts rest)

/-- How a word was written. -/
def text : Word → String
  | .plain t => t
  | .mark => "--"
  | .unknown t => t
  | .option _ name _ => name

end Word

end TopicReader
