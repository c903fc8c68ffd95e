/-!
# `Category` — the kinds of problem that end a run

## Contents
- **The type.** `Category`, its word in logs (`Category.word`) and its form inside a quoted value.
-/

namespace TopicReader

/-- What part of a run a problem belongs to. -/
inductive Category where
  | config
  | metadata
  | stream
  | output
  | unknown
deriving DecidableEq, Repr, Inhabited

namespace Category

/-- The word for a category. -/
def word : Category → String
  | .config => "config"
  | .metadata => "metadata"
  | .stream => "stream"
  | .output => "output"
  | .unknown => "unknown"

/-- The category that a word stands for. -/
def ofWord? (w : String) : Option Category :=
  [config, metadata, stream, output, unknown].find? fun c => c.word == w

/-- The name of a category, in capitals. -/
def name (c : Category) : String := "ErrorCategory." ++ String.ofList (c.word.toList.map Char.toUpper)

/-- The form of a category inside a quoted value. -/
def quoted (c : Category) : String := "<" ++ c.name ++ ": '" ++ c.word ++ "'>"

end Category

end TopicReader
