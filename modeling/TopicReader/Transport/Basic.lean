import TopicReader.Client
import TopicReader.ClientSettings
import TopicReader.Transport.Request
import TopicReader.Value.Convert

/-!
# `Transport` — the client that reads from a cluster

## Contents
- **The state.** `Transport`: which handles are held, the open streams with where they start, and the streams
  whose end was told.
- **Handles.** `Transport.start` and `Transport.stop`: a consumer and an admin client.
- **Metadata.** `Transport.fetch`, bounded in time.
- **Streams.** `Transport.openStream`: an assignment drops every position, so each stream is placed again;
  `Transport.closeStream`.
- **Records.** `Transport.poll`: what the streams hold, and the ends that are reached, each told once.
-/

namespace TopicReader

/-- Where a stream starts: at an offset, or at something that is none. -/
inductive StartPoint where
  | offset (o : Offset)
  | alien (v : Value)
deriving Repr, Inhabited

/-- What a transport is set up with. -/
structure TransportOptions where
  connection : Connection
  properties : Fields
  loader : TlsLoader

/-- The state of a transport. `requests` holds the latest first. -/
structure Transport (ν : Type) where
  network : ν
  requests : List Request
  hasConsumer : Bool
  hasAdmin : Bool
  streams : List (TopicPartition × StartPoint)
  ended : List TopicPartition

namespace Transport

variable {ν : Type}

/-- A transport before it is started. -/
def idle (network : ν) : Transport ν := ⟨network, [], false, false, [], []⟩

/-- Ask the network. -/
def ask (n : Network ν) (r : Request) (t : Transport ν) : Except Failure r.Answer × Transport ν :=
  let (result, network) := n.answer r t.network
  (result, { t with network := network, requests := r :: t.requests })

/-- There is no handle to ask. -/
def noHandle (member : String) : Failure :=
  .mishap .noSuchMember ("'NoneType' object has no attribute '" ++ member ++ "'")

/-! ## Handles -/

/-- The origin of the log record. -/
def origin : String := "kfc.consumer.transport"

/-- A failure to connect. -/
def connectFailure (c : Connection) (f : Failure) : Failure :=
  if f.isBroker then .caused (.connect c.servers) f else f

/-- Start both handles. -/
def startHandles (n : Network ν) (c : Connection) (t : Transport ν) : Except Failure Unit × Transport ν :=
  match t.ask n .startConsumer with
  | (.error f, t) => (.error (connectFailure c f), t)
  | (.ok (), t) =>
    match t.ask n .startAdmin with
    | (.error f, t) => (.error (connectFailure c f), t)
    | (.ok (), t) => (.ok (), t)

/-- Make the consumer. -/
def makeConsumer (n : Network ν) (o : TransportOptions) (t : Transport ν) :
    Except Failure Unit × Transport ν :=
  match Connection.consumerSettings o.loader o.connection o.properties with
  | .error f => (.error f, t)
  | .ok settings =>
    match t.ask n (.makeConsumer settings) with
    | (.error f, t) => (.error f, t)
    | (.ok (), t) => (.ok (), { t with hasConsumer := true })

/-- Make the admin client. -/
def makeAdmin (n : Network ν) (o : TransportOptions) (t : Transport ν) :
    Except Failure Unit × Transport ν :=
  match Connection.adminSettings o.loader o.connection o.properties with
  | .error f => (.error f, t)
  | .ok settings =>
    match t.ask n (.makeAdmin settings) with
    | (.error f, t) => (.error f, t)
    | (.ok (), t) => (.ok (), { t with hasAdmin := true })

/-- Make both handles and start them. -/
def start (n : Network ν) (o : TransportOptions) (t : Transport ν) : Except Failure Unit × Transport ν :=
  match t.makeConsumer n o with
  | (.error f, t) => (.error f, t)
  | (.ok (), t) =>
    match t.makeAdmin n o with
    | (.error f, t) => (.error f, t)
    | (.ok (), t) => t.startHandles n o.connection

/-- Ask the network, or do nothing. -/
def askIf (held : Bool) (n : Network ν) (r : Request) (t : Transport ν) :
    Except Failure Unit × Transport ν :=
  if held then
    match t.ask n r with
    | (.error f, t) => (.error f, t)
    | (.ok _, t) => (.ok (), t)
  else (.ok (), t)

/-- The failure of the second step counts, else that of the first. -/
def second (first second : Except Failure Unit) : Except Failure Unit :=
  match second with
  | .error f => .error f
  | .ok () => first

/-- Let go of everything, and then release both handles: the second one also when the first one fails. -/
def stop (n : Network ν) (t : Transport ν) : Except Failure Unit × Transport ν :=
  let bare := { t with hasConsumer := false, hasAdmin := false, streams := [], ended := [] }
  let (first, bare) := bare.askIf t.hasConsumer n .stopConsumer
  let (last, bare) := bare.askIf t.hasAdmin n .closeAdmin
  (second first last, bare)

/-! ## Metadata -/

/-- The wait for an answer ran out. -/
def outOfTime : Failure := .foreign ⟨"TimeoutError", .timeout, "", "", none⟩

/-- Is there no time at all? -/
def noTime (seconds : Double) : Bool := seconds.lt (.zero false) || seconds.eq (.zero false)

/-- A failure of a metadata query. -/
def fetchFailure (topic : String) (seconds : Double) (f : Failure) : Failure :=
  if f.isTimeout then .caused (.metadataTimeout topic seconds) f
  else if f.isBroker then f.ofMetadataQuery topic []
  else f

/-- Describe a topic within some seconds. -/
def fetch (n : Network ν) (topic : String) (seconds : Double) (t : Transport ν) :
    Except Failure TopicMetadata × Transport ν :=
  if !t.hasAdmin then (.error (noHandle "describe_topics"), t)
  else if noTime seconds then (.error (fetchFailure topic seconds outOfTime), t)
  else
    match t.ask n (.describe topic) with
    | (.error f, t) => (.error (fetchFailure topic seconds f), t)
    | (.ok none, t) => (.error (fetchFailure topic seconds outOfTime), t)
    | (.ok (some answer), t) => (.ok (TopicMetadata.ofAnswer n.errors topic answer), t)

/-! ## Streams -/

/-- Something that is no offset. -/
def unsupported (v : Value) : Failure :=
  .foreign (.plain "TypeError" ("Unsupported offset directive: " ++ v.quoted))

/-- Place a stream a number of records before the end, or at the beginning if there are not so many. -/
def seekTail (n : Network ν) (tp : TopicPartition) (count : Nat) (t : Transport ν) :
    Except Failure Unit × Transport ν :=
  match t.ask n (.beginningOffset tp) with
  | (.error f, t) => (.error f, t)
  | (.ok first, t) =>
    match t.ask n (.endOffset tp) with
    | (.error f, t) => (.error f, t)
    | (.ok last, t) => t.ask n (.seek tp (max first (last - count)))

/-- Place a stream. -/
def place (n : Network ν) (tp : TopicPartition) (start : StartPoint) (t : Transport ν) :
    Except Failure Unit × Transport ν :=
  match start with
  | .offset .earliest => t.ask n (.seekToBeginning tp)
  | .offset .latest => t.ask n (.seekToEnd tp)
  | .offset .stored => t.ask n (.seekToCommitted tp)
  | .offset (.absolute k) => t.ask n (.seek tp k)
  | .offset (.tail count) => t.seekTail n tp count
  | .alien v => (.error (unsupported v), t)

/-- Place some streams, one after the other. -/
def placeEach (n : Network ν) : List (TopicPartition × StartPoint) → Transport ν →
    Except Failure Unit × Transport ν
  | [], t => (.ok (), t)
  | (tp, start) :: rest, t =>
    match t.place n tp start with
    | (.error f, t) => (.error f, t)
    | (.ok (), t) => placeEach n rest t

/-- Set where a stream starts: in its old place if it is there, at the end otherwise. -/
def withStart (streams : List (TopicPartition × StartPoint)) (tp : TopicPartition) (start : StartPoint) :
    List (TopicPartition × StartPoint) :=
  match streams with
  | [] => [(tp, start)]
  | s :: rest => if s.1 = tp then (tp, start) :: rest else s :: withStart rest tp start

/-- Open a stream. The open streams stay as they were if anything fails. -/
def openStream (n : Network ν) (topic : String) (partition : Int) (start : StartPoint)
    (t : Transport ν) : Except Failure Unit × Transport ν :=
  let tp : TopicPartition := ⟨topic, partition⟩
  let streams := withStart t.streams tp start
  if !t.hasConsumer then (.error (noHandle "assign"), t)
  else
    match t.ask n (.assign (streams.map (·.1))) with
    | (.error f, t) => (.error f, t)
    | (.ok (), t) =>
      match t.placeEach n streams with
      | (.error f, t) => (.error f, t)
      | (.ok (), t) =>
        (.ok (), { t with streams := streams, ended := t.ended.filter (· ≠ tp) })

/-- Is a stream open? -/
def isOpen (t : Transport ν) (tp : TopicPartition) : Bool := t.streams.any fun s => s.1 = tp

/-- Close a stream, if it is open. -/
def closeStream (n : Network ν) (topic : String) (partition : Int) (t : Transport ν) :
    Except Failure Unit × Transport ν :=
  let tp : TopicPartition := ⟨topic, partition⟩
  if t.isOpen tp then
    let t := { t with streams := t.streams.filter (·.1 ≠ tp), ended := t.ended.filter (· ≠ tp) }
    t.askIf t.hasConsumer n (.pause tp)
  else (.ok (), t)

/-! ## Records -/

/-- The partition that a failure names, if it names just one. -/
def partitionNamed? : Failure → Option Int
  | .foreign f =>
    match f.named with
    | some [n] => some n.2
    | _ => none
  | _ => none

/-- Take the records of the streams: those that have any are not at their end. -/
def take (data : List (TopicPartition × List Record)) (t : Transport ν) : List Item × Transport ν :=
  let busy := (data.filter fun d => !d.2.isEmpty).map (·.1)
  (data.flatMap fun d => d.2.map .record, { t with ended := t.ended.filter fun tp => !busy.contains tp })

/-- Are only committed records read? -/
def committedOnly (o : TransportOptions) : Bool :=
  ((o.properties.get? "isolation_level").getD .null).same (.text "read_committed")

/-- The end of what can be read of a partition, if it is known. -/
def endOf (n : Network ν) (o : TransportOptions) (tp : TopicPartition) (t : Transport ν) :
    Except Failure (Option Int) × Transport ν :=
  if committedOnly o then t.ask n (.lastStable tp) else t.ask n (.highWater tp)

/-- Is the end of a stream reached? If so, it is told, and not again before there are more records. -/
def endItem (n : Network ν) (o : TransportOptions) (tp : TopicPartition) (t : Transport ν) :
    Except Failure (Option Item) × Transport ν :=
  if t.ended.contains tp then (.ok none, t)
  else
    match t.endOf n o tp with
    | (.error f, t) => (.error f, t)
    | (.ok none, t) => (.ok none, t)
    | (.ok (some last), t) =>
      match t.ask n (.position tp) with
      | (.error f, t) =>
        (if f.isBroker then .ok (some (.failed tp.topic tp.partition f)) else .error f, t)
      | (.ok position, t) =>
        if last ≤ position then
          (.ok (some (.ended tp.topic tp.partition position)), { t with ended := tp :: t.ended })
        else (.ok none, t)

/-- The ends that are reached, up to the first failure. -/
def endItems (n : Network ν) (o : TransportOptions) : List TopicPartition → Transport ν →
    Except Failure (List Item) × Transport ν
  | [], t => (.ok [], t)
  | tp :: rest, t =>
    match t.endItem n o tp with
    | (.error f, t) => (.error f, t)
    | (.ok (some (.failed topic p f)), t) => (.ok [.failed topic p f], t)
    | (.ok item, t) =>
      match endItems n o rest t with
      | (.error f, t) => (.error f, t)
      | (.ok items, t) => (.ok (item.toList ++ items), t)

/-- Seconds as whole milliseconds. -/
def milliseconds (seconds : Double) : Except Failure Int :=
  (Value.float (seconds.mul (Double.ofInt 1000))).toInt

/-- The items of an answer, and the ends that are reached after it. -/
def collect (n : Network ν) (o : TransportOptions) (tps : List TopicPartition)
    (data : List (TopicPartition × List Record)) (t : Transport ν) :
    Except Failure (List Item) × Transport ν :=
  let (records, t) := t.take data
  match t.endItems n o tps with
  | (.error f, t) => (.error f, t)
  | (.ok ends, t) => (.ok (records ++ ends), t)

/-- Wait for records of the streams from the first one on. -/
def pollFrom (n : Network ν) (o : TransportOptions) (first : TopicPartition) (seconds : Double)
    (t : Transport ν) : Except Failure (List Item) × Transport ν :=
  let tps := t.streams.map (·.1)
  if !t.hasConsumer then (.error (noHandle "getmany"), t)
  else
    match milliseconds seconds with
    | .error f => (.error f, t)
    | .ok ms =>
      match t.ask n (.getMany tps ms) with
      | (.error f, t) =>
        (if f.isBroker then .ok [.failed first.topic (partitionNamed? f) f] else .error f, t)
      | (.ok data, t) => t.collect n o tps data

/-- Wait some seconds for records of the open streams. -/
def poll (n : Network ν) (o : TransportOptions) (seconds : Double) (t : Transport ν) :
    Except Failure (List Item) × Transport ν :=
  match t.streams with
  | [] => (.ok [], t)
  | s :: _ => t.pollFrom n o s.1 seconds

/-! ## The client -/

/-- What the log says when the transport starts. -/
def connecting (o : TransportOptions) : Incident :=
  .note Level.debug origin "Connecting to Kafka" [("bootstrap_servers", o.connection.servers)]

/-- A result without incidents. -/
def quiet {α : Type} (r : Except Failure α × Transport ν) : Reply α × Transport ν := (.of r.1, r.2)

/-- The transport as the client of a run. -/
def client (n : Network ν) (o : TransportOptions) : Client (Transport ν) where
  start t :=
    let (result, t) := t.start n o
    (⟨[connecting o], result⟩, t)
  stop t := quiet (t.stop n)
  fetch topic seconds t := quiet (t.fetch n topic seconds)
  openStream topic partition start t := quiet (t.openStream n topic partition (.offset start))
  closeStream topic partition t := quiet (t.closeStream n topic partition)
  poll seconds t := quiet (t.poll n o seconds)

end Transport

end TopicReader
