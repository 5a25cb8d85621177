import Commissioning.Live.Feed
import Mathlib.Data.List.Induction

/-!
# The course of a feed

A feed is worked on in acts (`Commissioning.Feed.Act`): a listener is attached or detached, the
client reports that it has connected or is disconnected, a message is received, a value that is
scheduled is handed over. Acts come in any order and with whatever the broker answers to them. One
that ends with an error has done what it did before.

An act is made of events (`Commissioning.Feed.Event`), and what an act does is what its events do
one after the other (`Commissioning.Feed.after_eq`). Attaching a listener to topics that are new,
for one, is the event that it joins, and then for each of these topics a request to the client and
the arrival of the messages that the broker has kept for it. What an event does is told in cases
(`Commissioning.Feed.Meets`), and whatever is said about events goes by these cases.

So a run of acts leaves a **history** (`Commissioning.Feed.history`), which has its latest event in
front, and the feed is what the history makes of a fresh one (`Commissioning.Feed.run_eq`). All that
is said about runs is said about histories.
-/

namespace Commissioning

/-! ### What is scheduled -/

namespace Listener

/-- What is scheduled for a listener when a value arrives under a topic. -/
def parcels (l : Listener) (topic : String) (value : Json) : List Delivery :=
  if l.isOpen then (l.channels.get? topic).toList.map fun c => ⟨l.id, c, value⟩ else []

end Listener

namespace Feed

theorem post_eq (f : Feed) (l : Listener) (topic : String) (value : Json) :
    f.post l topic value = { f with pending := f.pending ++ l.parcels topic value } := by
  unfold post Listener.parcels
  cases l.channels.get? topic <;> cases l.isOpen <;> simp

theorem foldl_post_eq {α : Type} (topic : α → String) (value : α → Json) (l : α → Listener)
    (as : List α) (f : Feed) :
    as.foldl (fun f a => f.post (l a) (topic a) (value a)) f =
      { f with pending := f.pending ++ as.flatMap fun a => (l a).parcels (topic a) (value a) } := by
  induction as generalizing f with
  | nil => simp
  | cons a as ih => rw [List.foldl_cons, ih, post_eq, List.flatMap_cons, List.append_assoc]

theorem postAll_eq (f : Feed) (topic : String) (value : Json) :
    f.postAll topic value =
      { f with pending := f.pending ++ f.listeners.flatMap fun l => l.parcels topic value } :=
  foldl_post_eq (fun _ => topic) (fun _ => value) id f.listeners f

theorem postCached_eq (f : Feed) (l : Listener) (known : List (String × Json)) :
    f.postCached l known =
      { f with pending := f.pending ++ known.flatMap fun v => l.parcels v.1 v.2 } :=
  foldl_post_eq Prod.fst Prod.snd (fun _ => l) known f

theorem remember_eq (f : Feed) (topic : String) (value : Json) :
    f.remember topic value =
      { f with latest := if f.holders.has topic then f.latest.put topic value else f.latest } := by
  unfold remember
  split <;> rfl

end Feed

/-! ### Events -/

namespace Feed

/-- Something that happens to a feed. -/
inductive Event where
  /-- Somebody joins to listen to channels of a device. -/
  | joined (edgeId : String) (channels : List String)
  /-- A listener leaves. -/
  | left (id : Nat)
  /-- A value arrives under a topic. -/
  | arrived (topic : String) (value : Json)
  /-- Something is requested of the client. -/
  | called (request : ClientCall)
  /-- The client has connected. -/
  | connected
  /-- The client is disconnected. -/
  | disconnected
  /-- The value that was scheduled first is handed over. -/
  | pushed

/-- The listener that would join; none if the topic of a channel cannot be made. -/
def newcomer? (f : Feed) (edgeId : String) (channels : List String) : Option Listener :=
  match f.channelsByTopic edgeId channels with
  | .ok table => some { id := f.nextListener, channels := table }
  | .error _ => none

/-- The feed after an event. -/
def meet (f : Feed) : Event → Feed
  | .joined edgeId channels =>
    match f.newcomer? edgeId channels with
    | some l => (f.enroll l).postCached l (f.cachedFor l)
    | none => f
  | .left id =>
    match f.listeners.find? (·.id == id) with
    | some l => f.release l
    | none => f
  | .arrived topic value => (f.remember topic value).postAll topic value
  | .called request => f.call request
  | .connected => { f with connected := true }
  | .disconnected => f.disconnect
  | .pushed => f.push

/-- A listener after a value has been handed over, which may have been scheduled for another. -/
def handed (d : Delivery) (l : Listener) : Listener :=
  if l.id == d.listener then l.take d.channel d.value else l

@[simp] theorem id_handed (d : Delivery) (l : Listener) : (handed d l).id = l.id := by
  unfold handed
  split <;> rfl

@[simp] theorem channels_handed (d : Delivery) (l : Listener) :
    (handed d l).channels = l.channels := by
  unfold handed
  split <;> rfl

@[simp] theorem isOpen_handed (d : Delivery) (l : Listener) : (handed d l).isOpen = l.isOpen := by
  unfold handed
  split <;> rfl

@[simp] theorem topics_handed (d : Delivery) (l : Listener) : (handed d l).topics = l.topics :=
  congrArg Assoc.keys (channels_handed d l)

theorem push_cons {f : Feed} {d : Delivery} {rest : List Delivery} (h : f.pending = d :: rest) :
    f.push = { f with pending := rest, listeners := f.listeners.map (handed d) } := by
  rw [push, h]
  rfl

theorem releaseTopic_eq (f : Feed) (topic : String) :
    f.releaseTopic topic =
      { f with
        holders :=
          if (f.holders.get? topic).getD 0 ≤ 1 then f.holders.erase topic
          else f.holders.put topic ((f.holders.get? topic).getD 0 - 1)
        latest :=
          if (f.holders.get? topic).getD 0 ≤ 1 then f.latest.erase topic else f.latest } := by
  simp only [releaseTopic]
  split <;> rfl

/-- Who leaves takes nothing along but a place on the list, counts and values. -/
theorem release_frame (f : Feed) (l : Listener) :
    ∃ holders latest, f.release l =
      { f with listeners := f.listeners.filter (·.id != l.id), holders, latest } := by
  have hfold : ∀ (topics : List String) (g : Feed), ∃ holders latest,
      topics.foldl releaseTopic g = { g with holders, latest } := by
    intro topics
    induction topics with
    | nil => exact fun g => ⟨g.holders, g.latest, rfl⟩
    | cons t topics ih =>
      intro g
      obtain ⟨holders, latest, heq⟩ := ih (g.releaseTopic t)
      exact ⟨holders, latest, by rw [List.foldl_cons, heq, releaseTopic_eq]⟩
  exact hfold l.topics _

/-- **What an event does**, in cases. -/
inductive Meets (f : Feed) : Event → Feed → Prop where
  | unjoined {edgeId : String} {channels : List String} :
    f.newcomer? edgeId channels = none → Meets f (.joined edgeId channels) f
  | joined {edgeId : String} {channels : List String} {l : Listener} :
    f.newcomer? edgeId channels = some l →
      Meets f (.joined edgeId channels)
        { f.enroll l with
          pending := f.pending ++ (f.cachedFor l).flatMap fun v => l.parcels v.1 v.2 }
  | unknown {id : Nat} : f.listeners.find? (fun l => l.id == id) = none → Meets f (.left id) f
  | left {id : Nat} {l : Listener} {holders : Assoc String Nat} {latest : Assoc String Json} :
    f.listeners.find? (fun l => l.id == id) = some l →
      f.release l = { f with listeners := f.listeners.filter (·.id != l.id), holders, latest } →
      Meets f (.left id)
        { f with listeners := f.listeners.filter (·.id != l.id), holders, latest }
  | arrived (topic : String) (value : Json) :
    Meets f (.arrived topic value)
      { f with
        latest := if f.holders.has topic then f.latest.put topic value else f.latest
        pending := f.pending ++ f.listeners.flatMap fun l => l.parcels topic value }
  | called (request : ClientCall) :
    Meets f (.called request) { f with calls := f.calls ++ [request] }
  | connected : Meets f .connected { f with connected := true }
  | disconnected : Meets f .disconnected { f with connected := false }
  | idle : f.pending = [] → Meets f .pushed f
  | pushed {d : Delivery} {rest : List Delivery} :
    f.pending = d :: rest →
      Meets f .pushed { f with pending := rest, listeners := f.listeners.map (handed d) }

theorem meets_meet (f : Feed) (e : Event) : Meets f e (f.meet e) := by
  cases e with
  | joined edgeId channels =>
    rw [meet]
    cases hl : f.newcomer? edgeId channels with
    | none => exact .unjoined hl
    | some l =>
      simp only [postCached_eq]
      exact .joined hl
  | left id =>
    rw [meet]
    cases hl : f.listeners.find? (fun l => l.id == id) with
    | none => exact .unknown hl
    | some l =>
      obtain ⟨holders, latest, hrelease⟩ := release_frame f l
      simp only [hrelease]
      exact .left hl hrelease
  | arrived topic value =>
    rw [meet, postAll_eq, remember_eq]
    exact .arrived topic value
  | called request => exact .called request
  | connected => exact .connected
  | disconnected => exact .disconnected
  | pushed =>
    rw [meet]
    cases hpending : f.pending with
    | nil =>
      rw [push, hpending]
      exact .idle hpending
    | cons d rest =>
      rw [push_cons hpending]
      exact .pushed hpending

/-- The feed after events one after the other. -/
def meetAll (f : Feed) (events : List Event) : Feed := events.foldl meet f

@[simp] theorem meetAll_cons (f : Feed) (e : Event) (events : List Event) :
    f.meetAll (e :: events) = (f.meet e).meetAll events := rfl

theorem meetAll_append (f : Feed) (es es' : List Event) :
    f.meetAll (es ++ es') = (f.meetAll es).meetAll es' := List.foldl_append

/-! ### Acts -/

/-- What is done with a feed in one go. -/
inductive Act where
  /-- A listener is attached, and the broker answers like this. -/
  | attach (broker : Broker) (edgeId : String) (channels : List String)
  /-- A listener is detached. -/
  | detach (id : Nat)
  /-- The client reports whether it has connected, and the broker answers like this. -/
  | connect (broker : Broker) (code : Int)
  /-- The client reports that it is disconnected. -/
  | disconnect
  /-- A message is received. -/
  | receive (m : Message)
  /-- The value that was scheduled first is handed over. -/
  | push

/-- A broker that agrees to everything and has kept no messages. -/
def quiet : Broker := fun _ => .granted []

/-- The feed after a program, also after one that ends with an error. -/
def stateAfter {α : Type} (program : FeedM α) (f : Feed) : Feed :=
  match program f with
  | .ok _ f' => f'
  | .error _ f' => f'

/-- The feed after an act. -/
def after (f : Feed) : Act → Feed
  | .attach broker edgeId channels => stateAfter (attach broker edgeId channels) f
  | .detach id => f.detach id
  | .connect broker code => stateAfter (connect broker code) f
  | .disconnect => f.disconnect
  | .receive m => stateAfter (receive m) f
  | .push => f.push

/-- **The feed after a run of acts.** -/
def run (settings : Settings) (acts : List Act) : Feed := acts.foldl after (create settings)

/-! ### The events of an act -/

/-- The messages of a list arrive, up to the first one that cannot be read. -/
def arrivals : List Message → List Event
  | [] => []
  | m :: ms => match m.value with
    | .ok value => .arrived m.topic value :: arrivals ms
    | .error _ => []

/-- Why the first message that cannot be read cannot be read. -/
def fault? : List Message → Option Json.Excess
  | [] => none
  | m :: ms => match m.value with
    | .ok _ => fault? ms
    | .error why => some why

/-- Subscriptions to topics are requested, and the messages that the broker has kept for them
arrive, up to the first topic that is rejected or message that cannot be read. -/
def subscriptions (broker : Broker) (quality : Int) : List String → List Event
  | [] => []
  | topic :: topics =>
    .called (.subscribe topic quality) :: match broker topic with
      | .granted retained =>
        arrivals retained ++
          if (fault? retained).isNone then subscriptions broker quality topics else []
      | .refused => subscriptions broker quality topics
      | .rejected _ => []

/-- **The events of an act.** -/
def events (f : Feed) : Act → List Event
  | .attach broker edgeId channels =>
    .joined edgeId channels :: match f.newcomer? edgeId channels with
      | some l =>
        if f.connected then subscriptions broker f.settings.quality (f.newTopics l) else []
      | none => []
  | .detach id =>
    .left id :: match f.listeners.find? (·.id == id) with
      | some l =>
        if f.connected then (f.releasedTopics l).map fun t => .called (.unsubscribe t) else []
      | none => []
  | .connect broker code =>
    if code = 0 then .connected :: subscriptions broker f.settings.quality f.heldTopics else []
  | .disconnect => [.disconnected]
  | .receive m => arrivals [m]
  | .push => [.pushed]

/-! ### What an act does is what its events do -/

/-- Nothing that is received changes the settings. -/
theorem settings_arrivals (f : Feed) (ms : List Message) :
    (f.meetAll (arrivals ms)).settings = f.settings := by
  induction ms generalizing f with
  | nil => rfl
  | cons m ms ih =>
    unfold arrivals
    split
    · rw [meetAll_cons, ih, meet, postAll_eq, remember_eq]
    · rfl

/-- Messages are received up to the first one that cannot be read. -/
theorem receiveAll_eq (ms : List Message) (f : Feed) :
    receiveAll ms f = match fault? ms with
      | none => .ok () (f.meetAll (arrivals ms))
      | some why => .error (.payload why) (f.meetAll (arrivals ms)) := by
  induction ms generalizing f with
  | nil => rfl
  | cons m ms ih =>
    rcases hm : m.value with why | value
    · simp only [receiveAll, receive, hm, fault?, arrivals]
      rfl
    · simp only [receiveAll, receive, hm, fault?, arrivals, meetAll_cons]
      exact ih _

theorem subscribe_eq (broker : Broker) (topic : String) (f : Feed) :
    subscribe broker topic f = match broker topic with
      | .granted retained => receiveAll retained (f.call (.subscribe topic f.settings.quality))
      | .refused => .ok () (f.call (.subscribe topic f.settings.quality))
      | .rejected why => .error (.rejected why) (f.call (.subscribe topic f.settings.quality)) := by
  unfold subscribe
  cases broker topic <;> rfl

theorem bind_apply {α β : Type} (m : FeedM α) (k : α → FeedM β) (f : Feed) :
    (m >>= k) f = match m f with
      | .ok a f' => k a f'
      | .error why f' => .error why f' := by
  show EStateM.bind m k f = _
  rw [EStateM.bind]
  cases m f <;> rfl

/-- Subscribing to topics is what the requests and the arrivals do. -/
theorem stateAfter_subscribeAll (broker : Broker) (topics : List String) (f : Feed) :
    stateAfter (subscribeAll broker topics) f =
      f.meetAll (subscriptions broker f.settings.quality topics) := by
  induction topics generalizing f with
  | nil => rfl
  | cons topic topics ih =>
    unfold stateAfter
    rw [subscribeAll, bind_apply, subscribe_eq, subscriptions, meetAll_cons]
    rcases broker topic with retained | _ | why
    · simp only [receiveAll_eq]
      rcases fault? retained with _ | why
      -- The topics that follow are subscribed to by a feed with the same settings.
      · have hsettings := settings_arrivals (f.call (.subscribe topic f.settings.quality)) retained
        simp only [Option.isNone_none, if_true, meetAll_append]
        rw [← stateAfter, ih, hsettings]
        rfl
      · simp [meet]
    · exact ih _
    · rfl

theorem unsubscribeAll_eq (f : Feed) (topics : List String) :
    f.unsubscribeAll topics = f.meetAll (topics.map fun t => .called (.unsubscribe t)) := by
  rw [meetAll, List.foldl_map]
  rfl

/-- An answer at the end of a program changes nothing. -/
theorem stateAfter_return {α β : Type} (m : FeedM α) (b : β) (f : Feed) :
    stateAfter (do let _ ← m; return b) f = stateAfter m f := by
  unfold stateAfter
  rw [bind_apply]
  cases m f <;> rfl

theorem stateAfter_attach (broker : Broker) (edgeId : String) (channels : List String) (f : Feed) :
    stateAfter (attach broker edgeId channels) f = match f.newcomer? edgeId channels with
      | some l =>
        if f.connected then
          stateAfter (subscribeAll broker (f.newTopics l))
            ((f.enroll l).postCached l (f.cachedFor l))
        else (f.enroll l).postCached l (f.cachedFor l)
      | none => f := by
  have hget : (get : FeedM Feed) f = .ok f f := rfl
  unfold newcomer? stateAfter
  simp only [attach, bind_apply, hget]
  cases f.channelsByTopic edgeId channels with
  | error why => rfl
  | ok table =>
    cases f.connected with
    | false => rfl
    | true => exact stateAfter_return (subscribeAll broker _) f.nextListener _

theorem stateAfter_connect (broker : Broker) (code : Int) (f : Feed) :
    stateAfter (connect broker code) f =
      if code = 0 then
        stateAfter (subscribeAll broker f.heldTopics) { f with connected := true }
      else f := by
  unfold connect
  split
  · rfl
  · rfl

/-- **What an act does is what its events do** one after the other. -/
theorem after_eq (f : Feed) (a : Act) : f.after a = f.meetAll (f.events a) := by
  cases a with
  | attach broker edgeId channels =>
    rw [after, stateAfter_attach, events, meetAll_cons, meet]
    rcases hl : f.newcomer? edgeId channels with _ | l
    · rfl
    · cases hconnected : f.connected
      · rfl
      · simp only [if_true]
        rw [stateAfter_subscribeAll, postCached_eq]
        rfl
  | detach id =>
    simp only [after, detach, events, meetAll_cons, meet]
    cases f.listeners.find? (fun l => l.id == id) with
    | none => rfl
    | some l =>
      cases f.connected
      · rfl
      · exact unsubscribeAll_eq _ _
  | connect broker code =>
    rw [after, stateAfter_connect, events]
    split
    · rw [stateAfter_subscribeAll]
      rfl
    · rfl
  | disconnect => rfl
  | receive m =>
    unfold after stateAfter events arrivals
    rcases hm : m.value with why | value
    · simp only [receive, hm]
      rfl
    · simp only [receive, hm]
      rfl
  | push => rfl

/-! ### Histories -/

/-- The feed after a history, the latest event of which comes first. -/
def ofHistory (settings : Settings) : List Event → Feed
  | [] => create settings
  | e :: past => (ofHistory settings past).meet e

/-- **The history of a run of acts**, the latest event first. -/
def history (settings : Settings) (acts : List Act) : List Event :=
  acts.foldl (fun past a => ((ofHistory settings past).events a).reverse ++ past) []

theorem ofHistory_append (settings : Settings) (events past : List Event) :
    ofHistory settings (events.reverse ++ past) = (ofHistory settings past).meetAll events := by
  induction events generalizing past with
  | nil => rfl
  | cons e events ih =>
    rw [List.reverse_cons, List.append_assoc, List.singleton_append, ih, meetAll_cons, ofHistory]

theorem history_concat (settings : Settings) (acts : List Act) (a : Act) :
    history settings (acts ++ [a]) =
      ((ofHistory settings (history settings acts)).events a).reverse ++ history settings acts := by
  rw [history, List.foldl_append]
  rfl

/-- **A run leaves what its history makes of a fresh feed.** -/
theorem run_eq (settings : Settings) (acts : List Act) :
    run settings acts = ofHistory settings (history settings acts) := by
  induction acts using List.reverseRecOn with
  | nil => rfl
  | append_singleton acts a ih =>
    rw [history_concat, ofHistory_append, ← ih, ← after_eq, run, List.foldl_append]
    rfl

end Feed

end Commissioning
