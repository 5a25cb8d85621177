import Commissioning.Proofs.Live.Samples

/-!
# A listener that joins while messages arrive

Attaching a listener and receiving a message are not done in one go. Who attaches a listener puts it
on the list and looks up what is known of its topics, all under one lock; what is known is scheduled
for it afterwards, value by value. Who receives a message keeps its value and notes who listens,
under the same lock, and schedules the value for each of them afterwards. An **overlap**
(`Commissioning.Overlap`) is the two of them at work on one feed, and a **schedule** gives each of
them turns in any order (`Commissioning.Overlap.play`), with values handed over in between.

Turns without interruption do what attaching and receiving do (`Commissioning.Overlap.play_attach`,
`Commissioning.Overlap.play_receive`). In between, a value that was looked up may be overtaken
(`Commissioning.Overlap.Overtaken`): a message for its topic comes in and is scheduled for the
listener first. The older value is then scheduled behind the newer one. If no other message for the
topic is left to make up for it, the listener ends with a value that is out of date
(`Commissioning.Overlap.not_fresh_overtaking`).

**That is the only way to end so** (`Commissioning.Overlap.fresh_iff_not_overtaken`): a listener
ends with the latest value of a topic exactly if what it was to start with has not been overtaken.
-/

namespace Commissioning

/-- A listener is being attached while messages are received. -/
structure Overlap where
  /-- The feed. -/
  feed : Feed
  /-- The listener. -/
  newcomer : Listener
  /-- Whether the listener is on the list. -/
  hasJoined : Bool := false
  /-- What was looked up and is to be scheduled for the listener. -/
  known : List (String × Json) := []
  /-- The topics that are to be subscribed to. -/
  wanted : List String := []
  /-- The messages that are still to come, by topic. -/
  inbox : List (String × Json)
  /-- Whom the value that came last is to be scheduled for. -/
  handing : List (Listener × String × Json) := []

namespace Overlap

/-- Whose turn it is. -/
inductive Turn where
  /-- Who attaches the listener goes on. -/
  | attach
  /-- Who receives messages goes on. -/
  | receive
  /-- The value that was scheduled first is handed over. -/
  | push
deriving DecidableEq

/-- Attaching goes on: the listener joins and its topics are looked up, then what is known is
scheduled, then topics are subscribed to. -/
def attachTurn (o : Overlap) : Overlap :=
  if o.hasJoined then
    match o.known, o.wanted with
    | (topic, value) :: known, _ => { o with feed := o.feed.post o.newcomer topic value, known }
    | [], topic :: wanted =>
      { o with feed := o.feed.call (.subscribe topic o.feed.settings.quality), wanted }
    | [], [] => o
  else
    { o with
      hasJoined := true, feed := o.feed.enroll o.newcomer, known := o.feed.cachedFor o.newcomer
      wanted := if o.feed.connected then o.feed.newTopics o.newcomer else [] }

/-- Receiving goes on: the value that came last is scheduled for one more listener, or the next
message is taken in. -/
def receiveTurn (o : Overlap) : Overlap :=
  match o.handing, o.inbox with
  | (l, topic, value) :: handing, _ => { o with feed := o.feed.post l topic value, handing }
  | [], (topic, value) :: inbox =>
    { o with
      feed := o.feed.remember topic value, inbox
      handing := o.feed.listeners.map fun l => (l, topic, value) }
  | [], [] => o

/-- The overlap after a turn. -/
def turn (o : Overlap) : Turn → Overlap
  | .attach => o.attachTurn
  | .receive => o.receiveTurn
  | .push => { o with feed := o.feed.push }

/-- **The overlap after a schedule.** -/
def play (o : Overlap) (schedule : List Turn) : Overlap := schedule.foldl turn o

/-- Nothing is left to do. -/
structure Finished (o : Overlap) : Prop where
  hasJoined : o.hasJoined = true
  known : o.known = []
  wanted : o.wanted = []
  inbox : o.inbox = []
  handing : o.handing = []
  pending : o.feed.pending = []

@[simp] theorem play_cons (o : Overlap) (t : Turn) (schedule : List Turn) :
    o.play (t :: schedule) = (o.turn t).play schedule := rfl

/-! ### Without interruption -/

theorem play_wanted (o : Overlap) (hjoined : o.hasJoined = true) (wanted : List String) :
    { o with known := [], wanted }.play (List.replicate wanted.length .attach) =
      { o with
        feed := Feed.stateAfter (Feed.subscribeAll Feed.quiet wanted) o.feed
        known := [], wanted := [] } := by
  induction wanted generalizing o with
  | nil => rfl
  | cons topic wanted ih =>
    have hturn : { o with known := [], wanted := topic :: wanted }.turn .attach =
        { o with
          feed := o.feed.call (.subscribe topic o.feed.settings.quality), known := [], wanted } :=
      if_pos hjoined
    rw [List.length_cons, List.replicate_succ, play_cons, hturn]
    exact ih { o with feed := o.feed.call (.subscribe topic o.feed.settings.quality) } hjoined

theorem play_known (o : Overlap) (hjoined : o.hasJoined = true) (known : List (String × Json))
    (wanted : List String) :
    { o with known, wanted }.play (List.replicate (known.length + wanted.length) .attach) =
      { o with
        feed := Feed.stateAfter (Feed.subscribeAll Feed.quiet wanted)
          (o.feed.postCached o.newcomer known)
        known := [], wanted := [] } := by
  induction known generalizing o with
  | nil =>
    rw [List.length_nil, Nat.zero_add]
    exact play_wanted o hjoined wanted
  | cons p known ih =>
    have hturn : { o with known := p :: known, wanted }.turn .attach =
        { o with feed := o.feed.post o.newcomer p.1 p.2, known, wanted } := if_pos hjoined
    rw [List.length_cons, Nat.add_right_comm, List.replicate_succ, play_cons, hturn]
    exact ih { o with feed := o.feed.post o.newcomer p.1 p.2 } hjoined

/-- **Attaching without interruption** is attaching in one go. -/
theorem play_attach {o : Overlap} (hjoined : o.hasJoined = false) {edgeId : String}
    {channels : List String} (h : o.feed.newcomer? edgeId channels = some o.newcomer) :
    ∃ n, o.play (List.replicate n .attach) =
      { o with
        feed := o.feed.after (.attach Feed.quiet edgeId channels)
        hasJoined := true, known := [], wanted := [] } := by
  obtain ⟨wanted, hwanted⟩ :
    ∃ wanted, wanted = if o.feed.connected then o.feed.newTopics o.newcomer else [] := ⟨_, rfl⟩
  have hturn : o.turn .attach =
      { o with
        hasJoined := true, feed := o.feed.enroll o.newcomer
        known := o.feed.cachedFor o.newcomer, wanted } := by
    rw [turn, attachTurn, if_neg (by simp [hjoined]), hwanted]
  have hafter : o.feed.after (.attach Feed.quiet edgeId channels) =
      Feed.stateAfter (Feed.subscribeAll Feed.quiet wanted)
        ((o.feed.enroll o.newcomer).postCached o.newcomer (o.feed.cachedFor o.newcomer)) := by
    rw [Feed.after, Feed.stateAfter_attach, h, hwanted]
    cases o.feed.connected <;> rfl
  refine ⟨(o.feed.cachedFor o.newcomer).length + wanted.length + 1, ?_⟩
  rw [List.replicate_succ, play_cons, hturn, hafter]
  exact play_known { o with hasJoined := true, feed := o.feed.enroll o.newcomer } rfl _ wanted

theorem play_handing (o : Overlap) (ls : List Listener) (topic : String) (value : Json) :
    { o with handing := ls.map fun l => (l, topic, value) }.play
        (List.replicate ls.length .receive) =
      { o with feed := ls.foldl (fun f l => f.post l topic value) o.feed, handing := [] } := by
  induction ls generalizing o with
  | nil => rfl
  | cons l ls ih =>
    rw [List.length_cons, List.replicate_succ, play_cons]
    exact ih { o with feed := o.feed.post l topic value }

/-- **Receiving without interruption** is receiving in one go. -/
theorem play_receive {o : Overlap} (hhanding : o.handing = []) {m : Message} {value : Json}
    (hvalue : m.value = .ok value) {inbox : List (String × Json)}
    (h : o.inbox = (m.topic, value) :: inbox) :
    ∃ n, o.play (List.replicate n .receive) =
      { o with feed := o.feed.after (.receive m), inbox } := by
  have hturn : o.turn .receive =
      { o with
        feed := o.feed.remember m.topic value, inbox
        handing := o.feed.listeners.map fun l => (l, m.topic, value) } := by
    rw [turn, receiveTurn, hhanding, h]
  have hafter : o.feed.after (.receive m) =
      o.feed.listeners.foldl (fun f l => f.post l m.topic value)
        (o.feed.remember m.topic value) := by
    rw [Feed.after_eq, Feed.events, Feed.arrivals, hvalue]
    show (o.feed.remember m.topic value).postAll m.topic value = _
    rw [Feed.remember_eq]
    rfl
  refine ⟨o.feed.listeners.length + 1, ?_⟩
  rw [List.replicate_succ, play_cons, hturn, hafter]
  refine (play_handing { o with feed := o.feed.remember m.topic value, inbox }
    o.feed.listeners m.topic value).trans ?_
  rw [hhanding]

end Overlap

/-! ### What a listener is promised -/

namespace Feed

/-- What is known of the topics of a listener is looked up in their order. -/
theorem map_fst_cachedFor (f : Feed) (l : Listener) :
    (f.cachedFor l).map Prod.fst = l.topics.filter fun t => f.latest.has t := by
  rw [cachedFor, List.map_filterMap, ← List.filterMap_eq_filter]
  refine List.filterMap_congr fun t _ => ?_
  show ((f.latest.get? t).map fun v => (t, v)).map Prod.fst = Option.guard _ t
  cases hv : f.latest.get? t <;> simp [Option.guard, Assoc.has, hv]

/-- The snapshot of the listener with an identifier. -/
def snapshotOf (f : Feed) (id : Nat) : Sample :=
  match f.listeners.find? (·.id == id) with
  | some l => l.snapshot
  | none => []

/-- The value of a channel that a listener ends with if nothing more is scheduled. -/
def promised (f : Feed) (id : Nat) (channel : String) : Option Json :=
  (Assoc.last? (outstanding id f.pending) channel).or ((f.snapshotOf id).get? channel)

section Post

variable (f : Feed) (l : Listener) (topic : String) (value : Json)

@[simp] theorem holders_post : (f.post l topic value).holders = f.holders := by rw [post_eq]

@[simp] theorem listeners_post : (f.post l topic value).listeners = f.listeners := by rw [post_eq]

@[simp] theorem latest_post : (f.post l topic value).latest = f.latest := by rw [post_eq]

end Post

theorem promised_post (f : Feed) (l : Listener) (topic : String) (value : Json) (id : Nat)
    (channel : String) :
    (f.post l topic value).promised id channel =
      (Assoc.last? (outstanding id (l.parcels topic value)) channel).or
        (f.promised id channel) := by
  rw [promised, post_eq, outstanding_append, Assoc.last?_append, Option.or_assoc]
  rfl

theorem promised_post_self (f : Feed) {l : Listener} (hopen : l.isOpen = true) {topic : String}
    (value : Json) {channel : String} (hc : l.channels.get? topic = some channel) :
    (f.post l topic value).promised l.id channel = some value := by
  rw [promised_post, outstanding_parcels hopen, hc]
  simp [Assoc.last?_cons]

theorem promised_post_other (f : Feed) {l : Listener} {topic : String} (value : Json) {id : Nat}
    {channel : String} (h : l.id = id → l.channels.get? topic ≠ some channel) :
    (f.post l topic value).promised id channel = f.promised id channel := by
  have hnone : Assoc.last? (outstanding id (l.parcels topic value)) channel = none := by
    refine Assoc.last?_eq fun v => ⟨fun hmem => ?_, nofun⟩
    obtain ⟨d, hd, heq⟩ := List.mem_map.mp hmem
    obtain ⟨hd, hlistener⟩ := List.mem_filter.mp hd
    have hid : l.id = id := (listener_of_mem_parcels hd).symm.trans (beq_iff_eq.mp hlistener)
    unfold Listener.parcels at hd
    split at hd
    · obtain ⟨c, hc, rfl⟩ := List.mem_map.mp hd
      obtain ⟨rfl, rfl⟩ := Prod.mk.inj heq
      exact absurd (Option.mem_toList.mp hc) (h hid)
    · cases hd
  rw [promised_post, hnone, Option.none_or]

/-- Handing a value over keeps the promise. -/
theorem promised_push {f : Feed} {id : Nat} (h : ∃ l ∈ f.listeners, l.id = id) (channel : String) :
    f.push.promised id channel = f.promised id channel := by
  rcases hpending : f.pending with _ | ⟨d, rest⟩
  · rw [push, hpending]
  · obtain ⟨l, hl⟩ : ∃ l, f.listeners.find? (fun l => l.id == id) = some l := by
      obtain ⟨l, hl, hid⟩ := h
      exact Option.isSome_iff_exists.mp (List.find?_isSome.mpr ⟨l, hl, by simp [hid]⟩)
    have hid : l.id = id := beq_iff_eq.mp (List.find?_some hl :)
    rw [push_cons hpending]
    simp only [promised, snapshotOf, List.find?_map, Function.comp_def, id_handed, hl,
      Option.map_some, hpending]
    by_cases hd : d.listener = id
    -- The value that was scheduled first is under the ones that follow, both before and after.
    · have hhanded : handed d l = l.take d.channel d.value := if_pos (by simp [hid, hd])
      have hcons : outstanding id (d :: rest) = (d.channel, d.value) :: outstanding id rest := by
        simp [outstanding, hd]
      rw [hhanded, hcons, Assoc.last?_cons, Option.or_assoc]
      refine congrArg (Option.or _) ?_
      show (l.snapshot.put d.channel d.value).get? channel = _
      rw [Assoc.get?_put]
      split <;> rfl
    · have hhanded : handed d l = l := if_neg (by simp [hid, Ne.symm hd])
      have hcons : outstanding id (d :: rest) = outstanding id rest := by
        simp [outstanding, hd]
      rw [hhanded, hcons]

end Feed

namespace Overlap

/-! ### Overtaking -/

/-- Nothing is left to be received or scheduled that brings the listener a value of a topic. -/
def Quiet (o : Overlap) (topic : String) : Prop :=
  (∀ p ∈ o.handing, p.1.id = o.newcomer.id → p.2.1 ≠ topic) ∧ ∀ m ∈ o.inbox, m.1 ≠ topic

/-- What is to be scheduled next was looked up for a topic and is out of date, and nothing is left
that makes up for it. -/
def IsLate (o : Overlap) (topic : String) : Prop :=
  ∃ old known, o.known = (topic, old) :: known ∧ o.feed.latest.get? topic ≠ some old ∧ o.Quiet topic

/-- **What was looked up for a topic has been overtaken**: it is scheduled when it is late. -/
def Overtaken (o : Overlap) (schedule : List Turn) (topic : String) : Prop :=
  ∃ before after, schedule = before ++ .attach :: after ∧ (o.play before).IsLate topic

theorem not_overtaken_nil (o : Overlap) (topic : String) : ¬o.Overtaken [] topic := by
  rintro ⟨before, after, heq, -⟩
  exact absurd heq.symm (by simp)

theorem overtaken_cons (o : Overlap) (t : Turn) (schedule : List Turn) (topic : String) :
    o.Overtaken (t :: schedule) topic ↔
      t = .attach ∧ o.IsLate topic ∨ (o.turn t).Overtaken schedule topic := by
  constructor
  · rintro ⟨before, after, heq, hlate⟩
    cases before with
    | nil => exact .inl ⟨(List.cons.inj heq).1, hlate⟩
    | cons t' before =>
      obtain ⟨rfl, hschedule⟩ := List.cons.inj heq
      exact .inr ⟨before, after, hschedule, hlate⟩
  · rintro (⟨rfl, hlate⟩ | ⟨before, after, rfl, hlate⟩)
    · exact ⟨[], schedule, rfl, hlate⟩
    · exact ⟨t :: before, after, rfl, hlate⟩

@[simp] theorem newcomer_turn (o : Overlap) (t : Turn) : (o.turn t).newcomer = o.newcomer := by
  cases t with
  | attach =>
    simp only [turn, attachTurn]
    split
    · split <;> rfl
    · rfl
  | receive =>
    simp only [turn, receiveTurn]
    split <;> rfl
  | push => rfl

@[simp] theorem newcomer_play (o : Overlap) (schedule : List Turn) :
    (o.play schedule).newcomer = o.newcomer := by
  induction schedule generalizing o with
  | nil => rfl
  | cons t schedule ih => rw [play_cons, ih, newcomer_turn]

/-! ### Before the listener joins -/

/-- Nobody knows of the listener yet. -/
structure Waiting (o : Overlap) : Prop where
  hasJoined : o.hasJoined = false
  known : o.known = []
  listeners : ∀ l ∈ o.feed.listeners, l.id ≠ o.newcomer.id
  pending : ∀ d ∈ o.feed.pending, d.listener ≠ o.newcomer.id
  handing : ∀ p ∈ o.handing, p.1.id ≠ o.newcomer.id

theorem not_isLate {o : Overlap} (h : o.known = []) (topic : String) : ¬o.IsLate topic := by
  rintro ⟨old, known, heq, -⟩
  rw [h] at heq
  cases heq

theorem waiting_receive {o : Overlap} (h : o.Waiting) : (o.turn .receive).Waiting := by
  simp only [turn, receiveTurn]
  split
  · next l topic value handing hhanding =>
    have hhanding' := h.handing
    rw [hhanding] at hhanding'
    obtain ⟨hl, hrest⟩ := List.forall_mem_cons.mp hhanding'
    simp only [Feed.post_eq]
    refine ⟨h.hasJoined, h.known, h.listeners, fun d hd => ?_, hrest⟩
    rcases List.mem_append.mp hd with hd | hd
    · exact h.pending d hd
    · rw [Feed.listener_of_mem_parcels hd]
      exact hl
  · next topic value inbox hhanding hinbox =>
    simp only [Feed.remember_eq]
    exact ⟨h.hasJoined, h.known, h.listeners, h.pending, List.forall_mem_map.mpr h.listeners⟩
  · exact h

theorem waiting_push {o : Overlap} (h : o.Waiting) : (o.turn .push).Waiting := by
  rw [turn]
  rcases hpending : o.feed.pending with _ | ⟨d, rest⟩
  · rw [Feed.push, hpending]
    exact h
  · rw [Feed.push_cons hpending]
    have hpending' := h.pending
    rw [hpending] at hpending'
    obtain ⟨-, hrest⟩ := List.forall_mem_cons.mp hpending'
    refine ⟨h.hasJoined, h.known, List.forall_mem_map.mpr fun l hl => ?_, hrest, h.handing⟩
    rw [Feed.id_handed]
    exact h.listeners l hl

/-! ### Once the listener has joined -/

/-- How things stand for a topic of the listener and its channel, given whether what was looked up
has been overtaken. What is being scheduled for the listener is the latest value, and when nothing
is left to be scheduled, the listener is promised the latest value unless it was overtaken. -/
structure Standing (o : Overlap) (topic channel : String) (overtaken : Prop) : Prop where
  hasJoined : o.hasJoined = true
  held : o.feed.holders.has topic = true
  listed : ∃ l ∈ o.feed.listeners, l.id = o.newcomer.id
  alike : ∀ l ∈ o.feed.listeners, l.id = o.newcomer.id →
    l.channels = o.newcomer.channels ∧ l.isOpen = true
  handing : ∀ p ∈ o.handing, p.1.id = o.newcomer.id →
    p.1.channels = o.newcomer.channels ∧ p.1.isOpen = true ∧
      (p.2.1 = topic → o.feed.latest.get? topic = some p.2.2)
  known : (o.known.map Prod.fst).Nodup
  passed : overtaken → o.Quiet topic ∧ topic ∉ o.known.map Prod.fst
  settled : o.Quiet topic → topic ∉ o.known.map Prod.fst →
    (o.feed.promised o.newcomer.id channel = o.feed.latest.get? topic ↔ ¬overtaken)

variable {o : Overlap} {topic channel : String} {overtaken : Prop}

/-- When the listener joins, nothing has been overtaken. -/
theorem standing_join (h : o.Waiting) (hproper : o.newcomer.Proper)
    (hsnapshot : o.newcomer.snapshot = []) (hc : o.newcomer.channels.get? topic = some channel) :
    (o.turn .attach).Standing topic channel False := by
  have htopic : topic ∈ o.newcomer.topics := Assoc.mem_keys_iff.mpr (by rw [hc]; rfl)
  have hturn : o.turn .attach =
      { o with
        hasJoined := true, feed := o.feed.enroll o.newcomer, known := o.feed.cachedFor o.newcomer
        wanted := if o.feed.connected then o.feed.newTopics o.newcomer else [] } :=
    if_neg (by simp [h.hasJoined])
  rw [hturn]
  refine ⟨rfl, ?_, ⟨o.newcomer, List.mem_append_right _ (List.mem_singleton_self _), rfl⟩,
    fun l hl hid => ?_, fun p hp hid => absurd hid (h.handing p hp), ?_, False.elim,
    fun _ hunknown => ?_⟩
  · show Assoc.has (Feed.hold o.feed.holders o.newcomer.topics) topic = true
    rw [Assoc.has, Feed.get?_hold hproper.nodup, if_pos htopic]
    rfl
  · rcases List.mem_append.mp hl with hl | hl
    · exact absurd hid (h.listeners l hl)
    · obtain rfl := List.mem_singleton.mp hl
      exact ⟨rfl, hproper.isOpen⟩
  · show ((o.feed.cachedFor o.newcomer).map Prod.fst).Nodup
    rw [Feed.map_fst_cachedFor]
    exact hproper.nodup.filter _
  · have hlatest : o.feed.latest.get? topic = none := by
      have hunknown : topic ∉ (o.feed.cachedFor o.newcomer).map Prod.fst := hunknown
      rw [Feed.map_fst_cachedFor, List.mem_filter] at hunknown
      simpa [htopic, Assoc.has] using hunknown
    have hpending : Feed.outstanding o.newcomer.id o.feed.pending = [] :=
      Feed.outstanding_eq_nil h.pending
    have hfound : (o.feed.enroll o.newcomer).snapshotOf o.newcomer.id = [] := by
      have hnobody : o.feed.listeners.find? (fun l => l.id == o.newcomer.id) = none :=
        List.find?_eq_none.mpr fun l hl => by simpa using h.listeners l hl
      simp [Feed.snapshotOf, Feed.enroll, List.find?_append, hnobody, hsnapshot]
    have hpromised : (o.feed.enroll o.newcomer).promised o.newcomer.id channel = none := by
      show (Assoc.last? (Feed.outstanding _ o.feed.pending) channel).or _ = none
      rw [hpending, hfound]
      rfl
    exact ⟨fun _ => not_false, fun _ => hpromised.trans hlatest.symm⟩

/-- Attaching goes on once the listener has joined: with what was looked up, which may be late, and
then with requests. -/
theorem standing_attach (h : o.Standing topic channel overtaken) (hproper : o.newcomer.Proper)
    (hc : o.newcomer.channels.get? topic = some channel) :
    (o.turn .attach).Standing topic channel (overtaken ∨ o.IsLate topic) := by
  have honTime (hknown : o.known = []) : (overtaken ∨ o.IsLate topic) = overtaken :=
    propext (or_iff_left (not_isLate hknown topic))
  rw [turn, attachTurn, if_pos h.hasJoined]
  split
  · next topic' value known hknown =>
    have hnodup := h.known
    rw [hknown] at hnodup
    obtain ⟨hnew, hnodup⟩ := List.nodup_cons.mp hnodup
    by_cases heq : topic' = topic
    -- A topic is looked up once, so this is the one turn at which its value can be late.
    · subst heq
      have hnot : ¬overtaken := fun hover =>
        (h.passed hover).2 (by rw [hknown]; exact List.mem_cons_self ..)
      have hlate : overtaken ∨ o.IsLate topic' ↔
          o.feed.latest.get? topic' ≠ some value ∧ o.Quiet topic' := by
        constructor
        · rintro (hover | ⟨old, known', heq, hlate⟩)
          · exact absurd hover hnot
          · obtain ⟨hfront, -⟩ := List.cons.inj (hknown.symm.trans heq)
            obtain ⟨-, rfl⟩ := Prod.mk.inj hfront
            exact hlate
        · exact fun hlate => .inr ⟨value, known, hknown, hlate⟩
      refine ⟨h.hasJoined, by simpa using h.held, by simpa using h.listed,
        by simpa using h.alike, by simpa using h.handing, hnodup,
        fun hover => ⟨(hlate.mp hover).2, hnew⟩, fun hquiet _ => ?_⟩
      have hquiet : o.Quiet topic' := hquiet
      rw [hlate]
      show (o.feed.post o.newcomer topic' value).promised o.newcomer.id channel =
        (o.feed.post o.newcomer topic' value).latest.get? topic' ↔ _
      rw [Feed.promised_post_self _ hproper.isOpen value hc, Feed.latest_post]
      simp [hquiet, eq_comm]
    · have hother : o.newcomer.channels.get? topic' ≠ some channel := fun hc' =>
        heq (hproper.topic_eq hc' hc)
      have honTime : (overtaken ∨ o.IsLate topic) = overtaken := by
        refine propext (or_iff_left ?_)
        rintro ⟨old, known', heq', -⟩
        obtain ⟨hfront, -⟩ := List.cons.inj (hknown.symm.trans heq')
        exact heq (Prod.mk.inj hfront).1
      have hmem : topic ∈ o.known.map Prod.fst ↔ topic ∈ known.map Prod.fst := by
        rw [hknown, List.map_cons, List.mem_cons]
        exact or_iff_right (Ne.symm heq)
      rw [honTime]
      refine ⟨h.hasJoined, by simpa using h.held, by simpa using h.listed,
        by simpa using h.alike, by simpa using h.handing, hnodup,
        fun hover => ⟨(h.passed hover).1, fun hin => (h.passed hover).2 (hmem.mpr hin)⟩,
        fun hquiet hunknown => ?_⟩
      have hsettled := h.settled hquiet fun hin => hunknown (hmem.mp hin)
      show (o.feed.post o.newcomer topic' value).promised o.newcomer.id channel =
        (o.feed.post o.newcomer topic' value).latest.get? topic ↔ _
      rw [Feed.promised_post_other _ value fun _ => hother, Feed.latest_post]
      exact hsettled
  · next topic' wanted hknown hwanted =>
    rw [honTime hknown]
    exact ⟨h.hasJoined, h.held, h.listed, h.alike, h.handing, h.known, h.passed, h.settled⟩
  · next hknown hwanted =>
    rw [honTime hknown]
    exact h

/-- Receiving goes on once the listener has joined. -/
theorem standing_receive (h : o.Standing topic channel overtaken) (hproper : o.newcomer.Proper)
    (hc : o.newcomer.channels.get? topic = some channel) :
    (o.turn .receive).Standing topic channel overtaken := by
  rw [turn, receiveTurn]
  split
  · next l topic' value handing hhanding =>
    have hhanding' := h.handing
    rw [hhanding] at hhanding'
    obtain ⟨hl, hrest⟩ := List.forall_mem_cons.mp hhanding'
    by_cases hmine : l.id = o.newcomer.id ∧ topic' = topic
    -- What is scheduled for the listener is the latest value, and it makes up for any older one.
    · obtain ⟨hid, rfl⟩ := hmine
      obtain ⟨hchannels, hopen, hlatest⟩ := hl hid
      have hnot : ¬overtaken := fun hover =>
        (h.passed hover).1.1 _ (by rw [hhanding]; exact List.mem_cons_self ..) hid rfl
      refine ⟨h.hasJoined, by simpa using h.held, by simpa using h.listed,
        by simpa using h.alike, by simpa using hrest, h.known, fun hover => absurd hover hnot,
        fun _ _ => ⟨fun _ => hnot, fun _ => ?_⟩⟩
      show (o.feed.post l topic' value).promised o.newcomer.id channel =
        (o.feed.post l topic' value).latest.get? topic'
      rw [← hid, Feed.promised_post_self _ hopen value (hchannels ▸ hc), Feed.latest_post]
      exact (hlatest rfl).symm
    · have hquiet : o.Quiet topic ↔
          (∀ p ∈ handing, p.1.id = o.newcomer.id → p.2.1 ≠ topic) ∧ ∀ m ∈ o.inbox, m.1 ≠ topic := by
        rw [Quiet, hhanding, List.forall_mem_cons]
        exact and_congr_left' (and_iff_right fun hid htopic => hmine ⟨hid, htopic⟩)
      refine ⟨h.hasJoined, by simpa using h.held, by simpa using h.listed,
        by simpa using h.alike, by simpa using hrest, h.known,
        fun hover => ⟨hquiet.mp (h.passed hover).1, (h.passed hover).2⟩, fun hquiet' hunknown => ?_⟩
      have hother : l.id = o.newcomer.id → l.channels.get? topic' ≠ some channel := by
        intro hid hc'
        rw [(hl hid).1] at hc'
        exact hmine ⟨hid, hproper.topic_eq hc' hc⟩
      show (o.feed.post l topic' value).promised o.newcomer.id channel =
        (o.feed.post l topic' value).latest.get? topic ↔ _
      rw [Feed.promised_post_other _ value hother, Feed.latest_post]
      exact h.settled (hquiet.mpr hquiet') hunknown
  · next topic' value inbox hhanding hinbox =>
    have hlatest : (o.feed.remember topic' value).latest.get? topic =
        if topic' = topic then some value else o.feed.latest.get? topic := by
      rw [Feed.remember_eq]
      by_cases heq : topic' = topic
      · subst heq
        simp [h.held]
      · rw [if_neg heq]
        show Assoc.get? (if _ then _ else _) topic = _
        split
        · rw [Assoc.get?_put, if_neg heq]
        · rfl
    -- A message changes what is known, but promises nothing to anybody yet.
    have hfeed : (o.feed.remember topic' value).holders.has topic = true ∧
        (o.feed.remember topic' value).listeners = o.feed.listeners ∧
        (o.feed.remember topic' value).promised o.newcomer.id channel =
          o.feed.promised o.newcomer.id channel := by
      rw [Feed.remember_eq]
      exact ⟨h.held, rfl, rfl⟩
    obtain ⟨hheld, hlisteners, hpromised⟩ := hfeed
    refine ⟨h.hasJoined, hheld, hlisteners.symm ▸ h.listed, hlisteners.symm ▸ h.alike,
      List.forall_mem_map.mpr fun l hl hid => ?_, h.known, fun hover => ?_,
      fun hquiet hunknown => ?_⟩
    · obtain ⟨hchannels, hopen⟩ := h.alike l hl hid
      exact ⟨hchannels, hopen, fun heq => hlatest.trans (if_pos heq)⟩
    · obtain ⟨hquiet, hunknown⟩ := h.passed hover
      have hinbox' := hquiet.2
      rw [hinbox] at hinbox'
      obtain ⟨hother, hrest⟩ := List.forall_mem_cons.mp hinbox'
      exact ⟨⟨List.forall_mem_map.mpr fun l _ _ => hother, hrest⟩, hunknown⟩
    · -- The listener is on the list, so a value for the topic would be scheduled for it.
      have hother : topic' ≠ topic := by
        obtain ⟨l, hl, hid⟩ := h.listed
        exact hquiet.1 (l, topic', value) (List.mem_map.mpr ⟨l, hl, rfl⟩) hid
      have hbefore : o.Quiet topic := by
        rw [Quiet, hhanding, hinbox]
        exact ⟨List.forall_mem_nil _, List.forall_mem_cons.mpr ⟨hother, hquiet.2⟩⟩
      rw [hpromised, hlatest, if_neg hother]
      exact h.settled hbefore hunknown
  · exact h

/-- Handing values over changes nothing of how things stand. -/
theorem standing_push (h : o.Standing topic channel overtaken) :
    (o.turn .push).Standing topic channel overtaken := by
  have hsettled : o.Quiet topic → topic ∉ o.known.map Prod.fst →
      (o.feed.push.promised o.newcomer.id channel = o.feed.latest.get? topic ↔ ¬overtaken) := by
    rw [Feed.promised_push h.listed]
    exact h.settled
  rw [turn]
  rcases hpending : o.feed.pending with _ | ⟨d, rest⟩
  · rw [Feed.push, hpending]
    exact h
  · rw [Feed.push_cons hpending] at hsettled ⊢
    refine ⟨h.hasJoined, h.held, ?_, List.forall_mem_map.mpr fun l hl hid => ?_, h.handing, h.known,
      h.passed, hsettled⟩
    · obtain ⟨l, hl, hid⟩ := h.listed
      exact ⟨Feed.handed d l, List.mem_map_of_mem hl, (Feed.id_handed d l).trans hid⟩
    · rw [Feed.id_handed] at hid
      rw [Feed.channels_handed, Feed.isOpen_handed]
      exact h.alike l hl hid

/-! ### Whole schedules -/

/-- How things stand after a turn, whether the listener has joined or not. -/
theorem stands_turn (hproper : o.newcomer.Proper) (hsnapshot : o.newcomer.snapshot = [])
    (hc : o.newcomer.channels.get? topic = some channel)
    (h : o.Waiting ∧ ¬overtaken ∨ o.Standing topic channel overtaken) (t : Turn) :
    (o.turn t).Waiting ∧ ¬(overtaken ∨ t = .attach ∧ o.IsLate topic) ∨
      (o.turn t).Standing topic channel (overtaken ∨ t = .attach ∧ o.IsLate topic) := by
  have hsame (ht : t ≠ .attach) : (overtaken ∨ t = .attach ∧ o.IsLate topic) = overtaken :=
    propext (or_iff_left fun hlate => ht hlate.1)
  rcases h with ⟨hwaiting, hnot⟩ | hstanding
  · cases t with
    | attach =>
      have hfalse : (overtaken ∨ Turn.attach = .attach ∧ o.IsLate topic) = False := by
        simp [hnot, not_isLate hwaiting.known]
      rw [hfalse]
      exact .inr (standing_join hwaiting hproper hsnapshot hc)
    | receive =>
      rw [hsame nofun]
      exact .inl ⟨waiting_receive hwaiting, hnot⟩
    | push =>
      rw [hsame nofun]
      exact .inl ⟨waiting_push hwaiting, hnot⟩
  · right
    cases t with
    | attach => simpa using standing_attach hstanding hproper hc
    | receive =>
      rw [hsame nofun]
      exact standing_receive hstanding hproper hc
    | push =>
      rw [hsame nofun]
      exact standing_push hstanding

theorem stands_play (hproper : o.newcomer.Proper) (hsnapshot : o.newcomer.snapshot = [])
    (hc : o.newcomer.channels.get? topic = some channel)
    (h : o.Waiting ∧ ¬overtaken ∨ o.Standing topic channel overtaken) (schedule : List Turn) :
    (o.play schedule).Waiting ∧ ¬(overtaken ∨ o.Overtaken schedule topic) ∨
      (o.play schedule).Standing topic channel (overtaken ∨ o.Overtaken schedule topic) := by
  induction schedule generalizing o overtaken with
  | nil =>
    have hsame : (overtaken ∨ o.Overtaken [] topic) = overtaken :=
      propext (or_iff_left (not_overtaken_nil o topic))
    rw [hsame]
    exact h
  | cons t schedule ih =>
    rw [overtaken_cons, ← or_assoc]
    have hnext := stands_turn hproper hsnapshot hc h t
    rw [play_cons]
    refine ih ?_ ?_ ?_ hnext <;> rw [newcomer_turn] <;> assumption

/-- The overlap of attaching a listener to a feed and of messages that are to come. -/
def start (f : Feed) (newcomer : Listener) (inbox : List (String × Json)) : Overlap :=
  { feed := f, newcomer, inbox }

/-- Who joins is not known to a feed before. -/
theorem waiting_start {f : Feed} (h : f.Sound) {newcomer : Listener}
    (hid : newcomer.id = f.nextListener) (inbox : List (String × Json)) :
    (start f newcomer inbox).Waiting := by
  refine ⟨rfl, rfl, fun l hl heq => ?_, fun d hd heq => ?_, nofun⟩
  · have hlt := h.id_lt l hl
    have heq : l.id = newcomer.id := heq
    omega
  · have hlt := h.pending_lt d hd
    have heq : d.listener = newcomer.id := heq
    omega

/-- **A listener that joins while messages arrive ends with the latest value of a topic exactly if
what was looked up for the topic has not been overtaken**: on whatever run of acts the listener
joins, whatever messages arrive, and in whatever order both go on until nothing is left to do. -/
theorem fresh_iff_not_overtaken (settings : Settings) (acts : List Feed.Act) {edgeId : String}
    {channels : List String} {newcomer : Listener}
    (hnewcomer : (Feed.run settings acts).newcomer? edgeId channels = some newcomer)
    (inbox : List (String × Json)) {schedule : List Turn}
    (hfinished : ((start (Feed.run settings acts) newcomer inbox).play schedule).Finished)
    {topic channel : String} (hc : newcomer.channels.get? topic = some channel) :
    (((start (Feed.run settings acts) newcomer inbox).play schedule).feed.snapshotOf
        newcomer.id).get? channel =
      ((start (Feed.run settings acts) newcomer inbox).play schedule).feed.latest.get? topic ↔
        ¬(start (Feed.run settings acts) newcomer inbox).Overtaken schedule topic := by
  have hsound : (Feed.run settings acts).Sound := by
    rw [Feed.run_eq]
    exact Feed.sound_ofHistory settings _
  obtain ⟨hid, hproper, hsnapshot, -⟩ := Feed.newcomer_spec hnewcomer
  have hstart := waiting_start hsound hid inbox
  have hstands := stands_play (o := start (Feed.run settings acts) newcomer inbox) hproper
    hsnapshot hc (.inl ⟨hstart, not_false⟩) schedule
  rcases hstands with ⟨hwaiting, -⟩ | hstanding
  · exact absurd (hfinished.hasJoined.symm.trans hwaiting.hasJoined) (by decide)
  · have hquiet : ((start (Feed.run settings acts) newcomer inbox).play schedule).Quiet topic := by
      rw [Quiet, hfinished.handing, hfinished.inbox]
      exact ⟨List.forall_mem_nil _, List.forall_mem_nil _⟩
    have hsettled := hstanding.settled hquiet (by simp [hfinished.known])
    rw [newcomer_play, Feed.promised, hfinished.pending, false_or] at hsettled
    exact hsettled

/-- Somebody listens to a topic, and a value has arrived. -/
def listening : List Feed.Act :=
  [.attach Feed.quiet "edge0" ["ess0/Soc"], .receive ⟨"edge/edge0/ess0/Soc", [0x37, 0x38]⟩]

/-- Another one that is to listen to it. -/
def second : Listener := { id := 1, channels := [("edge/edge0/ess0/Soc", "ess0/Soc")] }

/-- A message is taken in while the second one joins, and scheduled for it in time. -/
def inTime : List Turn :=
  [.attach, .receive, .attach, .receive, .receive, .push, .push, .push, .push]

/-- The same message is scheduled for it too early. -/
def overtaking : List Turn :=
  [.attach, .receive, .receive, .receive, .attach, .push, .push, .push, .push]

/-- What was looked up is not overtaken if it is scheduled in time. -/
theorem fresh_iff_not_overtaken_inTime :
    (Feed.run {} listening).newcomer? "edge0" ["ess0/Soc"] = some second ∧
      ((start (Feed.run {} listening) second [("edge/edge0/ess0/Soc", .int 79)]).play
        inTime).Finished ∧
      ¬(start (Feed.run {} listening) second [("edge/edge0/ess0/Soc", .int 79)]).Overtaken inTime
        "edge/edge0/ess0/Soc" := by
  have hsecond : (Feed.run {} listening).newcomer? "edge0" ["ess0/Soc"] = some second := rfl
  have hfinished : ((start (Feed.run {} listening) second
      [("edge/edge0/ess0/Soc", .int 79)]).play inTime).Finished := ⟨rfl, rfl, rfl, rfl, rfl, rfl⟩
  have hc : second.channels.get? "edge/edge0/ess0/Soc" = some "ess0/Soc" := rfl
  exact ⟨hsecond, hfinished, (fresh_iff_not_overtaken {} listening hsecond _ hfinished hc).mp rfl⟩

/-- **A listener can end with a value that is out of date.** -/
theorem not_fresh_overtaking :
    (Feed.run {} listening).newcomer? "edge0" ["ess0/Soc"] = some second ∧
      ((start (Feed.run {} listening) second [("edge/edge0/ess0/Soc", .int 79)]).play
        overtaking).Finished ∧
      (((start (Feed.run {} listening) second [("edge/edge0/ess0/Soc", .int 79)]).play
        overtaking).feed.snapshotOf 1).get? "ess0/Soc" = some (.int 78) ∧
      ((start (Feed.run {} listening) second [("edge/edge0/ess0/Soc", .int 79)]).play
        overtaking).feed.latest.get? "edge/edge0/ess0/Soc" = some (.int 79) :=
  ⟨rfl, ⟨rfl, rfl, rfl, rfl, rfl, rfl⟩, rfl, rfl⟩

end Overlap

end Commissioning
