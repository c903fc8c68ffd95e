import TopicReader.Failure.Basic
import TopicReader.Value.Text

/-!
# `Failure.Known` — the failures that come from outside, by name

## Contents
- **Names.** `Library`: the classes of failure of the cluster's client, and of its brokers with their numbers; and
  the classes of the system, with the numbers that decide one.
- **Construction.** `Foreign.ofName`: the failure with a name and arguments, and its text.
-/

namespace TopicReader.Foreign

open TopicReader.Text

/-! ## Names -/

/-- The place that the client's failures belong to. -/
def clientHome : String := "aiokafka.errors"

/-- The failures that a library knows: the client's own, and those that brokers report, with their numbers. -/
structure Library where
  clientNames : List String
  brokerNumbers : List (String × Int)

/-- Failures of the library's usual release. -/
def Library.usual : Library where
  clientNames :=
    ["KafkaError", "KafkaConnectionError", "KafkaTimeoutError", "NodeNotReadyError",
     "RecordTooLargeError", "IllegalStateError", "NoOffsetForPartitionError", "KafkaUnavailableError",
     "NoBrokersAvailable"]
  brokerNumbers :=
    [("UnknownError", -1), ("OffsetOutOfRangeError", 1), ("CorruptRecordException", 2),
     ("UnknownTopicOrPartitionError", 3), ("RequestTimedOutError", 7),
     ("NotCoordinatorForGroupError", 16), ("InvalidTopicError", 17),
     ("TopicAuthorizationFailedError", 29), ("TransactionalIdAuthorizationFailed", 53)]

/-- The system's failures. -/
def systemNames : List String :=
  ["OSError", "BlockingIOError", "ChildProcessError", "ConnectionError", "BrokenPipeError",
   "ConnectionAbortedError", "ConnectionRefusedError", "ConnectionResetError", "FileExistsError",
   "FileNotFoundError", "InterruptedError", "IsADirectoryError", "NotADirectoryError",
   "PermissionError", "ProcessLookupError", "TimeoutError"]

/-- Further names of the general one of them. -/
def systemAliases : List String := ["EnvironmentError", "IOError"]

/-- The numbers that decide which of the system's failures one is. -/
def systemNumbers : List (Int × String) :=
  [(1, "PermissionError"), (2, "FileNotFoundError"), (3, "ProcessLookupError"),
   (4, "InterruptedError"), (10, "ChildProcessError"), (11, "BlockingIOError"),
   (13, "PermissionError"), (17, "FileExistsError"), (20, "NotADirectoryError"),
   (21, "IsADirectoryError"), (32, "BrokenPipeError"), (103, "ConnectionAbortedError"),
   (104, "ConnectionResetError"), (108, "BrokenPipeError"), (110, "TimeoutError"),
   (111, "ConnectionRefusedError"), (114, "BlockingIOError"), (115, "BlockingIOError")]

/-- Failures by refused values. -/
def valueNames : List String := ["ValueError", "UnicodeError"]

/-! ## Construction -/

/-- The text of arguments: nothing, the only one on its own, or all of them. -/
def argumentText (args : List Value) : String :=
  match args with
  | [] => ""
  | [v] => v.shown
  | vs => (Value.tuple vs).quoted

/-- The name of a failure with its arguments. -/
def titled (name : String) (args : List Value) : String :=
  if args.isEmpty then name else name ++ ": " ++ argumentText args

/-- A file in the text of one of the system's failures. -/
def fileText (mark : String) (file : Value) : String := if file.isNull then "" else mark ++ file.quoted

/-- The text of one of the system's failures: its number, and the files where there are some. -/
def systemText (args : List Value) : String :=
  match args with
  | number :: what :: files =>
    let start := "[Errno " ++ number.shown ++ "] " ++ what.shown
    match files with
    | [] => start
    | [file] | [file, _] => start ++ fileText ": " file
    | [file, _, other] =>
      start ++ fileText ": " file ++ (if file.isNull then "" else fileText " -> " other)
    | _ => argumentText args
  | args => argumentText args

/-- The class of one of the system's failures: a number may decide it. -/
def systemName (name : String) (args : List Value) : String :=
  match args with
  | .int n :: _ :: files =>
    if name = "OSError" ∧ files.length ≤ 3 then
      ((systemNumbers.find? fun s => s.1 == n).map (·.2)).getD name
    else name
  | _ => name

/-- One of the system's failures. -/
def ofSystem (name : String) (args : List Value) : Foreign :=
  let own := systemName name args
  ⟨own, if own = "TimeoutError" then .timeout else .system, systemText args, "", none⟩

/-- The text of a failure of no special kind; a missing key is quoted. -/
def plainText (name : String) (args : List Value) : String :=
  match args with
  | [v] => if name = "KeyError" then v.quoted else v.shown
  | args => argumentText args

/-- The failure with a name and arguments. `named` are the partitions that its first argument names. -/
def ofName (library : Library) (name : String) (args : List Value)
    (named : Option (List (String × Int))) : Foreign :=
  if library.clientNames.contains name then ⟨name, .broker, titled name args, clientHome, named⟩
  else
    match library.brokerNumbers.find? fun b => b.1 == name with
    | some b => ⟨name, .broker, "[Error " ++ intText b.2 ++ "] " ++ titled name args, clientHome, named⟩
    | none =>
      if systemNames.contains name then ofSystem name args
      else if systemAliases.contains name then ofSystem "OSError" args
      else ⟨name, if valueNames.contains name then .value else .plain, plainText name args, "", none⟩

/-- The form of a failure inside a quoted value: its name and its arguments. -/
def formOf (name : String) (args : List Value) : String :=
  match args with
  | [v] => name ++ "(" ++ v.quoted ++ ")"
  | vs => name ++ (Value.tuple vs).quoted

end TopicReader.Foreign
