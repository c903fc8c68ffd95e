import TopicReader.Settings
import TopicReader.Value.Text

/-!
# `Startup` — what the log says when a run starts

## Contents
- **The lines.** `Startup.lines`: where the run reads from, and further settings, between rules.
- **For settings.** `Startup.details`: the further settings of a run.
-/

namespace TopicReader.Startup

/-- The line above and below. -/
def rule : String := String.ofList (List.replicate 70 '=')

/-- The line for the starting offset, unless it is empty. -/
def offsetLines : Option String → List String
  | none => []
  | some spec => if spec = "" then [] else ["Starting offset: " ++ spec]

/-- The name of a partition, or of all. -/
def partitionText : Option Int → String
  | none => "all"
  | some p => intText p

/-- The lines for a run. -/
def lines (topic : String) (servers : Value) (partition : Option Int) (offset : Option String)
    (more : Fields) : List String :=
  [rule, "Starting consumer for topic " ++ topic, rule, "Kafka bootstrap servers: " ++ servers.shown,
   "Partition: " ++ partitionText partition] ++ offsetLines offset ++
    more.map (fun f => f.1 ++ ": " ++ f.2.shown) ++ [rule]

/-- Bytes in quotes, or the word for none. -/
def delimiterText : Option (List UInt8) → String
  | none => "None"
  | some bs => Text.quoteBytes bs

/-- A limit, or the word for none. -/
def limitValue : Limit → Value
  | none => .text "none"
  | some n => .int n

/-- The further settings of a run. -/
def details (s : Settings) : Fields :=
  Fields.update
    [("Delimiter", .text (delimiterText (some s.delimiter))),
     ("Key delimiter", .text (delimiterText s.keyDelimiter)), ("Message limit", limitValue s.limit),
     ("Exit on EOF", .bool s.exitOnEnd)] s.properties

/-- The lines for the settings of a run and its starting offset. -/
def ofSettings (s : Settings) (start : Offset) : List String :=
  lines s.topic s.connection.servers s.partition (some start.text) (details s)

end TopicReader.Startup
