import Commissioning.Live.Payload
import Commissioning.Live.Template
import Commissioning.Settings
import Commissioning.Text.Split

/-!
# The live feed

Devices report the values of their channels to a broker, topic by topic. The feed
(`Commissioning.Feed`) keeps one subscription per topic for all that listen to it, and
the latest value of every topic that somebody listens to, so that a listener who comes
later starts with what is known.

## The steps

Two parties work on a feed: the one that attaches and detaches listeners, and the one
that receives messages. They meet in short steps, each of which is a function here:

* `Commissioning.Feed.enroll` and `Commissioning.Feed.release` change who listens;
* `Commissioning.Feed.remember` keeps the latest value of a topic;
* `Commissioning.Feed.post` schedules a value for one listener;
* `Commissioning.Feed.push` hands the value that was scheduled first to its listener.

`Commissioning.Feed.attach`, `Commissioning.Feed.detach` and `Commissioning.Feed.receive`
are made of them. A listener gets one sample for each value handed to it, and every
sample holds the latest value of each channel so far.
-/

namespace Commissioning

/-- A request to the client of the broker. -/
inductive ClientCall where
  /-- A client of the name is made. -/
  | create (id : String)
  /-- It is told how long to wait between attempts to connect. -/
  | reconnectDelay (least most : Nat)
  /-- It is to connect. -/
  | connect (host : String) (port : Int) (keepAlive : Nat)
  /-- It is to start working. -/
  | start
  /-- It is to stop working. -/
  | stop
  /-- It is to disconnect. -/
  | disconnect
  /-- It is to subscribe to a topic. -/
  | subscribe (topic : String) (quality : Int)
  /-- It is to end the subscription to a topic. -/
  | unsubscribe (topic : String)
deriving DecidableEq, Repr

/-- What comes of subscribing to a topic. -/
inductive SubscribeAnswer where
  /-- The broker has agreed; these messages came at once. -/
  | granted (retained : List Message)
  /-- The broker has refused. -/
  | refused
  /-- The client has rejected the topic. -/
  | rejected (why : String)

/-- The broker, as subscribing meets it. -/
abbrev Broker := String → SubscribeAnswer

/-- Why the feed cannot do what it is asked. -/
inductive FeedError where
  /-- The template of the topics has a fault. -/
  | template (why : Template.TemplateError)
  /-- A message has no value. -/
  | payload (why : Json.Excess)
  /-- The client has rejected a topic. -/
  | rejected (why : String)
deriving DecidableEq, Repr

/-- The wording of an error. -/
def FeedError.message : FeedError → String
  | .template why => why.message
  | .payload why => why.message
  | .rejected why => why

/-- A sample: the latest value of each channel. -/
abbrev Sample := Members

/-! ### Listeners -/

/-- Somebody who listens to channels of a device. -/
structure Listener where
  /-- What tells the listener from others. -/
  id : Nat
  /-- The channels by topic. -/
  channels : Assoc String String
  /-- Whether the listener still takes samples. -/
  isOpen : Bool := true
  /-- The latest value of each channel so far. -/
  snapshot : Sample := []
  /-- The samples so far. -/
  samples : List Sample := []
deriving Inhabited

namespace Listener

/-- The listener with one more value. -/
def take (l : Listener) (channel : String) (value : Json) : Listener :=
  let snapshot := l.snapshot.put channel value
  { l with snapshot, samples := l.samples ++ [snapshot] }

/-- The topics that a listener listens to. -/
def topics (l : Listener) : List String := l.channels.keys

end Listener

/-- A value that is scheduled for a listener. -/
structure Delivery where
  /-- The listener. -/
  listener : Nat
  /-- The channel. -/
  channel : String
  /-- The value. -/
  value : Json
deriving Inhabited

/-! ### The feed -/

/-- **The live feed.** -/
structure Feed where
  /-- How the broker is reached and what the topics are. -/
  settings : Settings
  /-- Whether the client is connected. -/
  connected : Bool := false
  /-- Who listens, in the order of coming. -/
  listeners : List Listener := []
  /-- How many listen to each topic. -/
  holders : Assoc String Nat := []
  /-- The latest value of each topic. -/
  latest : Assoc String Json := []
  /-- The values that are scheduled, the first one in front. -/
  pending : List Delivery := []
  /-- The requests to the client so far. -/
  calls : List ClientCall := []
  /-- What the next listener is told by. -/
  nextListener : Nat := 0
deriving Inhabited

/-- What is done with a feed; what has been done before an error stays done. -/
abbrev FeedM := EStateM FeedError Feed

namespace Feed

/-- A fresh feed. -/
def create (settings : Settings) : Feed :=
  { settings, calls := [.create settings.clientId, .reconnectDelay 1 30] }

/-- The feed with one more request to the client. -/
def call (f : Feed) (c : ClientCall) : Feed := { f with calls := f.calls ++ [c] }

/-- **The topic of a channel of a device.** -/
def topicFor (f : Feed) (edgeId channel : String) : Except Template.TemplateError String :=
  let (component, name) := Text.cutFirst '/' channel.toList
  Template.fill f.settings.topicTemplate
    [("edge_id", edgeId), ("component", String.ofList component),
     ("channel", String.ofList (name.getD []))]

/-- The channels of a device by topic; of several with one topic the last counts. -/
def channelsByTopic (f : Feed) (edgeId : String) (channels : List String) :
    Except Template.TemplateError (Assoc String String) := do
  let topics ← channels.mapM fun channel => do return (← f.topicFor edgeId channel, channel)
  return Assoc.ofList topics

/-! ### The steps -/

/-- Counts one more listener for each of some topics. -/
def hold (holders : Assoc String Nat) (topics : List String) : Assoc String Nat :=
  topics.foldl (fun h t => h.put t ((h.get? t).getD 0 + 1)) holders

/-- The feed with one more listener. -/
def enroll (f : Feed) (l : Listener) : Feed :=
  { f with
    listeners := f.listeners ++ [l], holders := hold f.holders l.topics
    nextListener := f.nextListener + 1 }

/-- The topics of a listener to which nobody listens. -/
def newTopics (f : Feed) (l : Listener) : List String :=
  l.topics.filter fun t => !f.holders.has t

/-- The latest values of the topics of a listener. -/
def cachedFor (f : Feed) (l : Listener) : List (String × Json) :=
  l.topics.filterMap fun t => (f.latest.get? t).map fun v => (t, v)

/-- The feed with one listener fewer for a topic; with the last one its value goes. -/
def releaseTopic (f : Feed) (topic : String) : Feed :=
  let count := (f.holders.get? topic).getD 0
  if count ≤ 1 then
    { f with holders := f.holders.erase topic, latest := f.latest.erase topic }
  else { f with holders := f.holders.put topic (count - 1) }

/-- The topics to which nobody but one listener listens. -/
def releasedTopics (f : Feed) (l : Listener) : List String :=
  l.topics.filter fun t => (f.holders.get? t).getD 0 ≤ 1

/-- The feed without a listener. -/
def release (f : Feed) (l : Listener) : Feed :=
  l.topics.foldl releaseTopic { f with listeners := f.listeners.filter (·.id != l.id) }

/-- The feed with the latest value of a topic, if anybody listens to it. -/
def remember (f : Feed) (topic : String) (value : Json) : Feed :=
  if f.holders.has topic then { f with latest := f.latest.put topic value } else f

/-- Schedules the value of a topic for a listener, if the listener listens to it and still
takes samples. -/
def post (f : Feed) (l : Listener) (topic : String) (value : Json) : Feed :=
  match l.channels.get? topic with
  | none => f
  | some channel =>
    if l.isOpen then { f with pending := f.pending ++ [⟨l.id, channel, value⟩] } else f

/-- Hands a value to its listener. -/
def deliver (f : Feed) (d : Delivery) : Feed :=
  { f with
    listeners := f.listeners.map fun l =>
      if l.id == d.listener then l.take d.channel d.value else l }

/-- Hands over the value that was scheduled first. -/
def push (f : Feed) : Feed :=
  match f.pending with
  | [] => f
  | d :: rest => { f with pending := rest }.deliver d

/-- Hands over all values that are scheduled. -/
def settle (f : Feed) : Feed := f.pending.foldl deliver { f with pending := [] }

/-! ### Messages -/

/-- Schedules the value of a topic for all listeners. -/
def postAll (f : Feed) (topic : String) (value : Json) : Feed :=
  f.listeners.foldl (fun f l => f.post l topic value) f

/-- **Receives a message.** -/
def receive (m : Message) : FeedM Unit := do
  match m.value with
  | .error why => throw (.payload why)
  | .ok value => modify fun f => (f.remember m.topic value).postAll m.topic value

/-- Receives messages one after the other. -/
def receiveAll : List Message → FeedM Unit
  | [] => pure ()
  | m :: ms => do
    receive m
    receiveAll ms

/-! ### Subscriptions -/

/-- Subscribes to a topic. What the broker refuses is only noted. -/
def subscribe (broker : Broker) (topic : String) : FeedM Unit := do
  modify fun f => f.call (.subscribe topic f.settings.quality)
  match broker topic with
  | .granted retained => receiveAll retained
  | .refused => pure ()
  | .rejected why => throw (.rejected why)

/-- Subscribes to topics one after the other. -/
def subscribeAll (broker : Broker) : List String → FeedM Unit
  | [] => pure ()
  | topic :: topics => do
    subscribe broker topic
    subscribeAll broker topics

/-- Schedules known values for a listener. -/
def postCached (f : Feed) (l : Listener) (known : List (String × Json)) : Feed :=
  known.foldl (fun f v => f.post l v.1 v.2) f

/-- **Attaches a listener** to channels of a device. -/
def attach (broker : Broker) (edgeId : String) (channels : List String) : FeedM Nat := do
  let f ← get
  match f.channelsByTopic edgeId channels with
  | .error why => throw (.template why)
  | .ok channels =>
    let l : Listener := { id := f.nextListener, channels }
    set ((f.enroll l).postCached l (f.cachedFor l))
    if f.connected then subscribeAll broker (f.newTopics l)
    return l.id

/-- **Closes a listener**: it stays attached, but takes no samples any more. -/
def close (f : Feed) (id : Nat) : Feed :=
  { f with listeners := f.listeners.map fun l =>
      if l.id == id then { l with isOpen := false } else l }

/-- The feed with the requests that end subscriptions. -/
def unsubscribeAll (f : Feed) (topics : List String) : Feed :=
  topics.foldl (fun f t => f.call (.unsubscribe t)) f

/-- **Detaches a listener.** -/
def detach (f : Feed) (id : Nat) : Feed :=
  match f.listeners.find? (·.id == id) with
  | none => f
  | some l =>
    if f.connected then (f.release l).unsubscribeAll (f.releasedTopics l) else f.release l

/-! ### Connections -/

/-- The topics that anybody listens to, in order of their characters. -/
def heldTopics (f : Feed) : List String := f.holders.keys.mergeSort fun a b => !(b < a)

/-- **The client reports whether it has connected**: with zero if it has. -/
def connect (broker : Broker) (code : Int) : FeedM Unit := do
  if code = 0 then
    modify fun f => { f with connected := true }
    subscribeAll broker (← get).heldTopics

/-- **The client reports that it is disconnected.** -/
def disconnect (f : Feed) : Feed := { f with connected := false }

/-- Starts the client. -/
def start (f : Feed) : Feed :=
  (f.call (.connect f.settings.brokerHost f.settings.brokerPort 60)).call .start

/-- Stops the client. -/
def stop (f : Feed) : Feed := (f.call .stop).call .disconnect

/-- What is reported about a feed. -/
def status (f : Feed) : Json :=
  .obj [("connected", .bool f.connected), ("broker_host", .str f.settings.brokerHost),
    ("broker_port", .int f.settings.brokerPort),
    ("active_subscriptions", .int f.listeners.length),
    ("subscribed_topics", .arr (f.heldTopics.map .str))]

/-! ### Waiting -/

/-- The samples of a listener. -/
def samplesOf (f : Feed) (id : Nat) : List Sample :=
  match f.listeners.find? (·.id == id) with
  | some l => l.samples
  | none => []

/-- **Waits for the first sample that is accepted**, listening to channels of a device as
long as it takes. While it waits, the given messages arrive. -/
def await (broker : Broker) (arriving : List Message) (edgeId : String) (channels : List String)
    (accepts : Sample → Bool) : FeedM (Option Sample) := do
  let id ← attach broker edgeId channels
  receiveAll arriving
  modify settle
  let found := ((← get).samplesOf id).find? accepts
  modify fun f => f.detach id
  return found

end Feed

end Commissioning
