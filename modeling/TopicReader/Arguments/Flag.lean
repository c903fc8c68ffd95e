/-!
# `Arguments.Flag` — the options of the command line

## Contents
- **The options.** `Flag`, the ways to write each (`Flag.names`), and whether it takes a value.
- **Recognition.** `Flag.ofName?` and `Flag.startingWith`: a long option may be cut short.
-/

namespace TopicReader

/-- An option of the command line. -/
inductive Flag where
  | help
  | brokers
  | partition
  | offset
  | delimiter
  | keyDelimiter
  | count
  | exitOnEnd
  | printOffset
  | unbuffered
  | verbose
  | quiet
  | property
  | config
  | logFile
deriving DecidableEq, Repr, Inhabited

namespace Flag

/-- The options, in order. -/
def all : List Flag :=
  [help, brokers, partition, offset, delimiter, keyDelimiter, count, exitOnEnd, printOffset, unbuffered,
   verbose, quiet, property, config, logFile]

/-- The ways to write an option. -/
def names : Flag → List String
  | help => ["-h", "--help"]
  | brokers => ["-b", "--brokers"]
  | partition => ["-p", "--partition"]
  | offset => ["-o", "--offset"]
  | delimiter => ["-d", "--delimiter"]
  | keyDelimiter => ["-k", "--key-delimiter"]
  | count => ["-c", "--count"]
  | exitOnEnd => ["-e", "--exit"]
  | printOffset => ["-O", "--print-offset"]
  | unbuffered => ["-u", "--unbuffered"]
  | verbose => ["-v", "--verbose"]
  | quiet => ["-q", "--quiet"]
  | property => ["-X"]
  | config => ["--config"]
  | logFile => ["--log-file"]

/-- Does an option take a value? -/
def takesValue : Flag → Bool
  | brokers | partition | offset | delimiter | keyDelimiter | count | property | config | logFile => true
  | _ => false

/-- Every way to write an option, in order. -/
def written : List (String × Flag) := all.flatMap fun f => f.names.map fun n => (n, f)

/-- The option that is written like this. -/
def ofName? (name : String) : Option Flag := (written.find? fun w => w.1 == name).map (·.2)

/-- The ways to write an option that start like this. -/
def startingWith (start : List Char) : List (String × Flag) :=
  written.filter fun w => start.isPrefixOf w.1.toList

/-- The name of an option in messages. -/
def title (f : Flag) : String :=
  match f.names with
  | [n] => n
  | ns => "/".intercalate ns

end Flag

end TopicReader
