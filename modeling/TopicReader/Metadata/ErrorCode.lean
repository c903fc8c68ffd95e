/-!
# `Metadata.ErrorCode` — the error codes of the cluster's answers

## Contents
- **The table.** `ErrorTable`: what the client's library calls the codes, and `ErrorTable.usual`.
- **Names.** `errorName?`: zero is no error, and a code without a name is an unknown one.
-/

namespace TopicReader.Metadata

/-- What a library calls the codes that it knows, and all the others. Every name says something. -/
structure ErrorTable where
  names : List (Int × String)
  other : String
  telling : ∀ name ∈ other :: names.map Prod.snd, name ≠ ""

/-- The names of the codes in the library's usual release. -/
def usualNames : List (Int × String) :=
  [(1, "OFFSET_OUT_OF_RANGE"), (2, "CORRUPT_MESSAGE"), (3, "UNKNOWN_TOPIC_OR_PARTITION"),
   (4, "INVALID_FETCH_SIZE"), (5, "LEADER_NOT_AVAILABLE"), (6, "NOT_LEADER_FOR_PARTITION"),
   (7, "REQUEST_TIMED_OUT"), (8, "BROKER_NOT_AVAILABLE"), (9, "REPLICA_NOT_AVAILABLE"),
   (10, "MESSAGE_SIZE_TOO_LARGE"), (11, "STALE_CONTROLLER_EPOCH"), (12, "OFFSET_METADATA_TOO_LARGE"),
   (13, "STALE_LEADER_EPOCH_CODE"), (14, "COORDINATOR_LOAD_IN_PROGRESS"), (15, "COORDINATOR_NOT_AVAILABLE"),
   (16, "NOT_COORDINATOR"), (17, "INVALID_TOPIC"), (18, "RECORD_LIST_TOO_LARGE"),
   (19, "NOT_ENOUGH_REPLICAS"), (20, "NOT_ENOUGH_REPLICAS_AFTER_APPEND"), (21, "INVALID_REQUIRED_ACKS"),
   (22, "ILLEGAL_GENERATION"), (23, "INCONSISTENT_GROUP_PROTOCOL"), (24, "INVALID_GROUP_ID"),
   (25, "UNKNOWN_MEMBER_ID"), (26, "INVALID_SESSION_TIMEOUT"), (27, "REBALANCE_IN_PROGRESS"),
   (28, "INVALID_COMMIT_OFFSET_SIZE"), (29, "TOPIC_AUTHORIZATION_FAILED"),
   (30, "GROUP_AUTHORIZATION_FAILED"), (31, "CLUSTER_AUTHORIZATION_FAILED"), (32, "INVALID_TIMESTAMP"),
   (33, "UNSUPPORTED_SASL_MECHANISM"), (34, "ILLEGAL_SASL_STATE"), (35, "UNSUPPORTED_VERSION"),
   (36, "TOPIC_ALREADY_EXISTS"), (37, "INVALID_PARTITIONS"), (38, "INVALID_REPLICATION_FACTOR"),
   (39, "INVALID_REPLICATION_ASSIGNMENT"), (40, "INVALID_CONFIG"), (41, "NOT_CONTROLLER"),
   (42, "INVALID_REQUEST"), (43, "UNSUPPORTED_FOR_MESSAGE_FORMAT"), (44, "POLICY_VIOLATION"),
   (45, "OUT_OF_ORDER_SEQUENCE_NUMBER"), (50, "INVALID_TRANSACTION_TIMEOUT"),
   (58, "SASL_AUTHENTICATION_FAILED"), (72, "LISTENER_NOT_FOUND"), (79, "MEMBER_ID_REQUIRED")]

/-- What the library usually calls the codes. -/
def ErrorTable.usual : ErrorTable := ⟨usualNames, "UNKNOWN", by decide⟩

instance : Inhabited ErrorTable := ⟨.usual⟩

/-- The name of an error code where it is an error. -/
def errorName? (table : ErrorTable) (code : Int) : Option String :=
  if code = 0 then none
  else
    match table.names.find? fun e => e.1 == code with
    | some e => some e.2
    | none => some table.other

/-- The code for a topic that the cluster does not have. -/
def unknownTopicCode : Int := 3

end TopicReader.Metadata
