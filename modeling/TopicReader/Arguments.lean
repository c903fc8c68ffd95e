import TopicReader.Arguments.Word
import TopicReader.Path

/-!
# `Arguments` — what a command line asks for

## Contents
- **The result.** `Arguments`, and `Arguments.verbosity`.
- **Taking options.** `Arguments.take`: the effect of one option.
- **Clusters.** `cluster`: letters that stand together behind one dash.
- **The command line.** `Arguments.ofWords` and `Arguments.ofList`: options in any order, one topic, and
  nothing left over.
-/

namespace TopicReader

open TopicReader.Text

/-- What a command line asks for. -/
structure Arguments where
  topic : Option String
  brokers : Option String
  partition : Option Int
  offset : String
  delimiter : List UInt8
  keyDelimiter : Option (List UInt8)
  count : Option Int
  exitOnEnd : Bool
  printOffset : Bool
  unbuffered : Bool
  verbose : Nat
  quiet : Bool
  properties : List String
  config : Option String
  logFile : Option String
deriving DecidableEq, Repr, Inhabited

/-- Why a command line leads to no run: help was asked for, or it is refused. -/
inductive Dismissal where
  | help
  | refused (e : UsageError)
deriving DecidableEq, Repr, Inhabited

namespace Arguments

/-- What an empty command line asks for. -/
def usual : Arguments :=
  { topic := none, brokers := none, partition := none, offset := "beginning", delimiter := [0x0a],
    keyDelimiter := none, count := none, exitOnEnd := false, printOffset := false, unbuffered := false,
    verbose := 0, quiet := false, properties := [], config := none, logFile := none }

/-- How much the console shows. -/
def verbosity (a : Arguments) : Int := if a.quiet then 0 else 1 + a.verbose

/-! ## Taking options -/

/-- The integer that a value spells. -/
def integer (f : Flag) (value : String) : Except Dismissal Int :=
  match Whole.read value with
  | .ok n => .ok n
  | .error _ => .error (.refused (.notInteger f value))

/-- The delimiter that a value names. -/
def delimiterOf (f : Flag) (value : String) : Except Dismissal (List UInt8) :=
  match Delimiter.ofText value with
  | .ok bs => .ok bs
  | .error e => .error (.refused (.badDelimiter f e.message))

/-- The effect of an option with its value, which is empty where the option takes none. -/
def take (a : Arguments) (f : Flag) (value : String) : Except Dismissal Arguments :=
  match f with
  | .help => .error .help
  | .brokers => .ok { a with brokers := some value }
  | .partition => (integer f value).map fun n => { a with partition := some n }
  | .offset => .ok { a with offset := value }
  | .delimiter => (delimiterOf f value).map fun bs => { a with delimiter := bs }
  | .keyDelimiter => (delimiterOf f value).map fun bs => { a with keyDelimiter := some bs }
  | .count => (integer f value).map fun n => { a with count := some n }
  | .exitOnEnd => .ok { a with exitOnEnd := true }
  | .printOffset => .ok { a with printOffset := true }
  | .unbuffered => .ok { a with unbuffered := true }
  | .verbose => .ok { a with verbose := a.verbose + 1 }
  | .quiet => .ok { a with quiet := true }
  | .property => .ok { a with properties := a.properties ++ [value] }
  | .config => .ok { a with config := some (Path.normalize value) }
  | .logFile => .ok { a with logFile := some (Path.normalize value) }

/-- The effect of some options, one after the other. -/
def takeAll (a : Arguments) (taken : List (Flag × String)) : Except Dismissal Arguments :=
  taken.foldlM (fun a t => a.take t.1 t.2) a

/-! ## Clusters -/

/-- The options of a word, and the last one if its value must follow. -/
structure Cluster where
  taken : List (Flag × String)
  pending : Option Flag
deriving DecidableEq, Repr, Inhabited

/-- An option without a value of its own word. -/
def Cluster.bare (f : Flag) : Cluster := if f.takesValue then ⟨[], some f⟩ else ⟨[(f, "")], none⟩

/-- The options of a word that starts with an option and has more attached: a value, or further letters. -/
def cluster (f : Flag) (attached : List Char) : Except UsageError Cluster :=
  if f.takesValue then .ok ⟨[(f, String.ofList attached)], none⟩
  else
    match attached with
    | [] => .error (.spareValue f "")
    | c :: rest =>
      match Flag.ofName? (String.ofList ['-', c]) with
      | none => .error (.spareValue f (String.ofList attached))
      | some g =>
        if rest.isEmpty then
          let last := Cluster.bare g
          .ok { last with taken := (f, "") :: last.taken }
        else (cluster g rest).map fun more => { more with taken := (f, "") :: more.taken }

/-- The options of a word. A long option has no further letters. -/
def clusterOf (f : Flag) (name : String) (attached : Option String) : Except UsageError Cluster :=
  match attached with
  | none => .ok (.bare f)
  | some v =>
    if !f.takesValue && name.toList.take 2 = ['-', '-'] then .error (.spareValue f v)
    else cluster f v.toList

/-! ## The command line -/

/-- What was read so far: the arguments, whether the topic was taken, and the words left over, the latest
    first. -/
structure Progress where
  arguments : Arguments
  placed : Bool
  spare : List String
deriving DecidableEq, Repr, Inhabited

namespace Progress

/-- Nothing is read yet. -/
def start : Progress := ⟨.usual, false, []⟩

/-- A word is left over. -/
def leave (p : Progress) (text : String) : Progress := { p with spare := text :: p.spare }

/-- A plain word: the topic, if there is none yet. -/
def plain (p : Progress) (text : String) : Progress :=
  if p.placed then p.leave text
  else { p with arguments := { p.arguments with topic := some text }, placed := true }

/-- Some plain words. -/
def plains (p : Progress) (words : List Word) : Progress :=
  words.foldl (fun p w => p.plain w.text) p

/-- Some options. -/
def options (p : Progress) (taken : List (Flag × String)) : Except Dismissal Progress :=
  (p.arguments.takeAll taken).map fun a => { p with arguments := a }

end Progress

/-- Read the words of a command line. The mark belongs to the topic if it stands right before or after it. -/
def read (p : Progress) : List Word → Except Dismissal Progress
  | [] => .ok p
  | .plain t :: .mark :: rest =>
    if p.placed then .ok (((p.leave t).leave "--").plains rest) else .ok ((p.plain t).plains rest)
  | .plain t :: rest => read (p.plain t) rest
  | .mark :: rest => if p.placed then .ok ((p.leave "--").plains rest) else .ok (p.plains rest)
  | .unknown t :: rest => read (p.leave t) rest
  | .option f name attached :: rest =>
    match clusterOf f name attached with
    | .error e => .error (.refused e)
    | .ok ⟨taken, none⟩ => do read (← p.options taken) rest
    | .ok ⟨taken, some g⟩ =>
      match rest with
      | .plain v :: rest => do read (← p.options (taken ++ [(g, v)])) rest
      | _ => .error (.refused (.missingValue g))

/-- The words that are commands rather than properties. -/
def commandWords : List String := ["list", "help", "dump"]

/-- Is any property a command? -/
def hasCommand (a : Arguments) : Bool := a.properties.any fun p => commandWords.contains p

/-- Nothing may be left over, and there must be a topic or a command. -/
def check (p : Progress) : Except Dismissal Arguments :=
  if !p.spare.isEmpty then .error (.refused (.unknownWords p.spare.reverse))
  else if (p.arguments.topic.getD "") = "" && !p.arguments.hasCommand then .error (.refused .topicMissing)
  else .ok p.arguments

/-- What the words of a command line ask for. -/
def ofWords (words : List Word) : Except Dismissal Arguments := do check (← read .start words)

/-- What a command line asks for. -/
def ofList (texts : List String) : Except Dismissal Arguments :=
  match Word.ofTexts texts with
  | .ok words => ofWords words
  | .error e => .error (.refused e)

end Arguments

end TopicReader
