import Commissioning.Proofs.Live.Bookkeeping

/-!
# What a failed subscription leaves behind

Whoever listens to channels of a device is entered in the books of the feed first, and only then is
the client asked to subscribe. The client may reject a topic, or a message that comes with the
subscription cannot be read. Then attaching the listener fails half way, and the one who wanted to
listen is not told by what to detach the listener again.

The books should be as before, but nobody sets them back. Attaching fails without a trace only if
it fails at making the topics, before anything is entered (`Commissioning.Feed.attach_error_cases`).
Otherwise the listener is on the list, one more is counted for each of its topics, and what has
arrived is kept (`Commissioning.Feed.failed_attach`). Detaching it would set the books back, but
without that no act does: the listener and its counts are there for good
(`Commissioning.Feed.Listens.run`).
-/

namespace Commissioning

namespace Feed

variable {f f' : Feed} {broker : Broker} {edgeId : String} {channels : List String}
  {why : FeedError} {l : Listener}

/-! ### Failing half way -/

/-- Subscribing has nothing to do with templates. -/
theorem ne_template_of_subscribeAll {topics : List String}
    (h : subscribeAll broker topics f = .error why f') (t : Template.TemplateError) :
    why ≠ .template t := by
  induction topics generalizing f with
  | nil => cases h
  | cons topic topics ih =>
    rw [subscribeAll, bind_apply, subscribe_eq] at h
    rcases hanswer : broker topic with retained | _ | reason <;> rw [hanswer] at h
    · simp only [receiveAll_eq] at h
      rcases hfault : fault? retained with _ | what <;> rw [hfault] at h
      · exact ih h
      · cases h
        simp
    · exact ih h
    · cases h
      simp

/-- **How attaching a listener fails**: at making its topics, and then nothing has happened, or
after the listener has joined, at a subscription. -/
theorem attach_error_cases (h : attach broker edgeId channels f = .error why f') :
    ((∃ t, why = .template t) ∧ f' = f) ∨
      (∀ t, why ≠ .template t) ∧ f.connected = true ∧ ∃ l, f.newcomer? edgeId channels = some l ∧
        f' = (f.meet (.joined edgeId channels)).meetAll
          (subscriptions broker f.settings.quality (f.newTopics l)) := by
  have hafter : f' = f.after (.attach broker edgeId channels) := by
    rw [after, stateAfter, h]
  have hget : (get : FeedM Feed) f = .ok f f := rfl
  rw [after_eq, events, meetAll_cons] at hafter
  rw [attach, bind_apply, hget] at h
  cases htable : f.channelsByTopic edgeId channels with
  | error reason =>
    simp only [htable] at h
    cases h
    exact Or.inl ⟨⟨reason, rfl⟩, rfl⟩
  | ok table =>
    have hl : f.newcomer? edgeId channels = some { id := f.nextListener, channels := table } := by
      rw [newcomer?, htable]
    cases hconnected : f.connected with
    | false =>
      simp only [htable, hconnected] at h
      cases h
    | true =>
      refine Or.inr ⟨fun t => ?_, rfl, _, hl, ?_⟩
      · have hset : ∀ g : Feed, (set g : FeedM PUnit) f = .ok ⟨⟩ g := fun _ => rfl
        simp only [htable, hconnected, if_true, bind_apply, hset] at h
        split at h
        · cases h
        · next hfailed =>
          cases h
          exact ne_template_of_subscribeAll hfailed t
      · rw [hafter, hl]
        simp only [hconnected, if_true]

/-! ### What traffic does -/

/-- Traffic brings nobody and takes nobody away. -/
theorem listeners_traffic {events : List Event} (h : ∀ e ∈ events, e.IsTraffic) (f : Feed) :
    (f.meetAll events).listeners = f.listeners := by
  induction events generalizing f with
  | nil => rfl
  | cons e events ih =>
    obtain ⟨he, hevents⟩ := List.forall_mem_cons.mp h
    rw [meetAll_cons, ih hevents]
    cases e with
    | called request => rfl
    | arrived topic value =>
      rw [meet, postAll_eq, remember_eq]
    | joined => exact he.elim
    | left => exact he.elim
    | connected => exact he.elim
    | disconnected => exact he.elim
    | pushed => exact he.elim

theorem audience_traffic {events : List Event} (h : ∀ e ∈ events, e.IsTraffic) (f : Feed)
    (topic : String) : (f.meetAll events).audience topic = f.audience topic := by
  rw [audience, listeners_traffic h, audience]

theorem Sound.meetAll (h : f.Sound) (events : List Event) : (f.meetAll events).Sound := by
  induction events generalizing f with
  | nil => exact h
  | cons e events ih => exact ih ((meets_meet f e).sound h)

theorem Sound.foldl (h : f.Sound) (acts : List Act) : (acts.foldl after f).Sound := by
  induction acts generalizing f with
  | nil => exact h
  | cons a acts ih =>
    refine ih ?_
    rw [after_eq]
    exact h.meetAll _

/-- The value of a topic that somebody listens to is the last one that traffic brings. -/
theorem latest_traffic {events : List Event} (htraffic : ∀ e ∈ events, e.IsTraffic) (h : f.Sound)
    {topic : String} (hheld : f.audience topic ≠ 0) :
    (f.meetAll events).latest.get? topic =
      (events.filterMap (Event.value? topic)).getLast?.or (f.latest.get? topic) := by
  induction events generalizing f with
  | nil => rfl
  | cons e events ih =>
    obtain ⟨he, hevents⟩ := List.forall_mem_cons.mp htraffic
    have hone : (f.meet e).audience topic = f.audience topic :=
      audience_traffic (List.forall_mem_singleton.mpr he) f topic
    have hmeets := meets_meet f e
    have hheld' : (f.meet e).audience topic ≠ 0 := by rwa [hone]
    have hlatest := hmeets.latest h hheld'
    rw [meetAll_cons, ih hevents (hmeets.sound h) hheld', hlatest, List.filterMap_cons]
    cases e.value? topic with
    | none => rfl
    | some value =>
      rw [List.getLast?_cons]
      cases (events.filterMap (Event.value? topic)).getLast? <;> rfl

/-! ### Who goes on listening -/

/-- The listener with an identifier listens to topics. -/
def Listens (f : Feed) (id : Nat) (topics : List String) : Prop :=
  ∃ l ∈ f.listeners, l.id = id ∧ l.topics = topics

variable {id : Nat} {topics : List String}

/-- Only by leaving does a listener stop listening. -/
theorem Meets.listens {e : Event} (hmeets : Meets f e f') (hstays : e ≠ .left id)
    (h : f.Listens id topics) : f'.Listens id topics := by
  obtain ⟨l, hl, rfl, htopics⟩ := h
  cases hmeets with
  | joined => exact ⟨l, List.mem_append_left _ hl, rfl, htopics⟩
  | left hk =>
    refine ⟨l, List.mem_filter.mpr ⟨hl, bne_iff_ne.mpr fun hid => hstays ?_⟩, rfl, htopics⟩
    have hk' := List.find?_some hk
    rw [hid, eq_of_beq hk']
  | pushed =>
    exact ⟨handed _ l, List.mem_map_of_mem hl, id_handed _ l, (topics_handed _ l).trans htopics⟩
  | _ => exact ⟨l, hl, rfl, htopics⟩

theorem Listens.meetAll {events : List Event} (h : f.Listens id topics)
    (hstays : ∀ e ∈ events, e ≠ .left id) : (f.meetAll events).Listens id topics := by
  induction events generalizing f with
  | nil => exact h
  | cons e events ih =>
    obtain ⟨he, hevents⟩ := List.forall_mem_cons.mp hstays
    exact ih ((meets_meet f e).listens he h) hevents

theorem ne_left_of_isTraffic {e : Event} (h : e.IsTraffic) : e ≠ .left id := by
  rintro rfl
  exact h

/-- Nobody leaves but by being detached. -/
theorem ne_left_of_mem_events {a : Act} (ha : a ≠ .detach id) : ∀ e ∈ f.events a, e ≠ .left id := by
  have htraffic : ∀ {es : List Event}, (∀ e ∈ es, e.IsTraffic) → ∀ e ∈ es, e ≠ .left id :=
    fun h e he => ne_left_of_isTraffic (h e he)
  cases a with
  | attach broker edgeId channels =>
    refine List.forall_mem_cons.mpr ⟨Event.noConfusion, htraffic ?_⟩
    split
    · split
      · exact isTraffic_subscriptions _ _ _
      · exact List.forall_mem_nil _
    · exact List.forall_mem_nil _
  | detach id' =>
    refine List.forall_mem_cons.mpr ⟨fun h => ha ?_, htraffic ?_⟩
    · cases h
      rfl
    · split
      · split
        · exact isTraffic_unsubscriptions _
        · exact List.forall_mem_nil _
      · exact List.forall_mem_nil _
  | connect broker code =>
    rw [events]
    split
    · exact List.forall_mem_cons.mpr ⟨Event.noConfusion, htraffic (isTraffic_subscriptions _ _ _)⟩
    · exact List.forall_mem_nil _
  | disconnect => exact List.forall_mem_singleton.mpr Event.noConfusion
  | receive m => exact htraffic (isTraffic_arrivals [m])
  | push => exact List.forall_mem_singleton.mpr Event.noConfusion

/-- **A listener that is not detached goes on listening**, whatever else is done. -/
theorem Listens.run {acts : List Act} (h : f.Listens id topics) (hacts : .detach id ∉ acts) :
    (acts.foldl after f).Listens id topics := by
  induction acts generalizing f with
  | nil => exact h
  | cons a acts ih =>
    rw [List.mem_cons, not_or] at hacts
    refine ih ?_ hacts.2
    rw [after_eq]
    exact h.meetAll (ne_left_of_mem_events (Ne.symm hacts.1))

/-- A topic that somebody listens to is counted. -/
theorem Listens.holders_pos (h : f.Listens id topics) (hsound : f.Sound) {topic : String}
    (htopic : topic ∈ topics) : ∃ count, f.holders.get? topic = some (count + 1) := by
  obtain ⟨l, hl, -, rfl⟩ := h
  have hpos : 0 < f.audience topic := List.countP_pos_iff.mpr ⟨l, hl, by simpa using htopic⟩
  refine ⟨f.audience topic - 1, ?_⟩
  rw [hsound.holders, entry, if_neg (by omega), Nat.sub_add_cancel hpos]

/-! ### The books after a failure -/

/-- **What is left behind** by a listener that joins a feed and is let down then, while some events
happen. -/
structure LeftBehind (f f' : Feed) (l : Listener) (events : List Event) : Prop where
  listeners : f'.listeners = f.listeners ++ [l]
  holders : ∀ topic, f'.holders.get? topic =
    if topic ∈ l.topics then some ((f.holders.get? topic).getD 0 + 1) else f.holders.get? topic
  latest : ∀ topic, f'.latest.get? topic =
    if topic ∈ l.topics ∨ f.audience topic ≠ 0 then
      (events.filterMap (Event.value? topic)).getLast?.or (f.latest.get? topic)
    else none

theorem leftBehind_of_traffic (h : f.Sound) (hl : f.newcomer? edgeId channels = some l)
    {events : List Event} (htraffic : ∀ e ∈ events, e.IsTraffic) :
    LeftBehind f ((f.meet (.joined edgeId channels)).meetAll events) l events := by
  obtain ⟨-, hproper, -⟩ := newcomer_spec hl
  obtain ⟨g, hg⟩ : ∃ g, f.meet (.joined edgeId channels) = g := ⟨_, rfl⟩
  have hjoined : g = { f.enroll l with
      pending := f.pending ++ (f.cachedFor l).flatMap fun v => l.parcels v.1 v.2 } := by
    rw [← hg, meet, hl]
    simp only [postCached_eq]
    rfl
  have hsound : g.Sound := hg ▸ (meets_meet f _).sound h
  have haudience : ∀ topic, g.audience topic =
      f.audience topic + if topic ∈ l.topics then 1 else 0 := by
    intro topic
    simp [hjoined, audience, enroll, List.countP_append, List.countP_singleton]
  rw [hg]
  refine ⟨?_, fun topic => ?_, fun topic => ?_⟩
  · rw [listeners_traffic htraffic, hjoined]
    rfl
  · rw [(meetAll_traffic htraffic g).2, hjoined]
    exact get?_hold hproper.nodup f.holders topic
  · have hheld : (topic ∈ l.topics ∨ f.audience topic ≠ 0) ↔ g.audience topic ≠ 0 := by
      rw [haudience]
      split <;> simp_all
    split
    · next hsome =>
      rw [latest_traffic htraffic hsound (hheld.mp hsome), hjoined]
      rfl
    · next hnone =>
      refine (hsound.meetAll events).latest topic ?_
      rw [audience_traffic htraffic]
      exact Classical.not_not.mp fun hsome => hnone (hheld.mpr hsome)

/-- Asking the client to end subscriptions changes nothing else. -/
theorem unsubscribeAll_frame (f : Feed) (topics : List String) :
    ∃ calls, f.unsubscribeAll topics = { f with calls } := by
  induction topics generalizing f with
  | nil => exact ⟨f.calls, rfl⟩
  | cons t topics ih =>
    obtain ⟨calls, hcalls⟩ := ih (f.call (.unsubscribe t))
    exact ⟨calls, hcalls⟩

/-- **Detaching what is left behind** sets the books back, but for values that have come on topics
that somebody else listens to. -/
theorem detach_leftBehind (h : f.Sound) (h' : f'.Sound) (hid : l.id = f.nextListener)
    {events : List Event} (hleft : LeftBehind f f' l events) :
    (f'.detach l.id).listeners = f.listeners ∧
      ∀ topic, (f'.detach l.id).holders.get? topic = f.holders.get? topic ∧
        (f.audience topic = 0 → (f'.detach l.id).latest.get? topic = f.latest.get? topic) := by
  have hnew : ∀ k ∈ f.listeners, k.id ≠ l.id := fun k hk => by
    have hlt := h.id_lt k hk
    omega
  have hmem : l ∈ f'.listeners := by simp [hleft.listeners]
  have hfind : f'.listeners.find? (fun k => k.id == l.id) = some l := by
    rw [hleft.listeners, List.find?_append, List.find?_eq_none.mpr fun k hk => by simp [hnew k hk]]
    simp
  have hothers : f'.listeners.filter (·.id != l.id) = f.listeners := by
    rw [hleft.listeners, List.filter_append,
      List.filter_eq_self.mpr fun k hk => by simp [hnew k hk]]
    simp
  have haudience : ∀ topic, (f'.release l).audience topic = f.audience topic := by
    intro topic
    obtain ⟨holders, latest, hrelease⟩ := release_frame f' l
    rw [hrelease, audience, hothers, audience]
  obtain ⟨calls, hdetach⟩ : ∃ calls, f'.detach l.id = { f'.release l with calls } := by
    simp only [detach, hfind]
    split
    · exact unsubscribeAll_frame _ _
    · exact ⟨(f'.release l).calls, rfl⟩
  rw [hdetach]
  refine ⟨?_, fun topic => ⟨?_, fun hnone => ?_⟩⟩
  · obtain ⟨holders, latest, hrelease⟩ := release_frame f' l
    rw [hrelease]
    exact hothers
  · obtain ⟨-, hholders, -⟩ := release_spec h' hmem topic
    exact hholders.trans (by rw [haudience, h.holders])
  · obtain ⟨-, -, hlatest⟩ := release_spec h' hmem topic
    rw [haudience, if_pos hnone] at hlatest
    exact hlatest.trans (h.latest topic hnone).symm

/-- The books of one feed are those of another. -/
structure SameBooks (f f' : Feed) : Prop where
  listeners : f'.listeners = f.listeners
  holders : ∀ topic, f'.holders.get? topic = f.holders.get? topic
  latest : ∀ topic, f'.latest.get? topic = f.latest.get? topic

theorem LeftBehind.not_sameBooks {events : List Event} (h : LeftBehind f f' l events) :
    ¬SameBooks f f' := fun hsame => by
  have hlength := congrArg List.length (h.listeners.symm.trans hsame.listeners)
  simp at hlength

/-- **The books are as before** exactly if the topics could not be made. -/
theorem sameBooks_iff_of_attach (hsound : f.Sound)
    (h : attach broker edgeId channels f = .error why f') :
    SameBooks f f' ↔ ∃ t, why = .template t := by
  rcases attach_error_cases h with ⟨htemplate, rfl⟩ | ⟨hwhy, -, l, hl, rfl⟩
  · exact iff_of_true ⟨rfl, fun _ => rfl, fun _ => rfl⟩ htemplate
  · have htraffic := isTraffic_subscriptions broker f.settings.quality (f.newTopics l)
    have hleft := leftBehind_of_traffic hsound hl htraffic
    exact iff_of_false hleft.not_sameBooks fun ⟨t, ht⟩ => hwhy t ht

theorem sound_run (settings : Settings) (acts : List Act) : (run settings acts).Sound :=
  run_eq settings acts ▸ sound_ofHistory settings _

/-- **What a failed attempt to listen leaves behind.** The books are as before if the topics could
not be made, and only then. Otherwise a listener is left with its counts, and what has arrived while
subscriptions were asked for; detaching it would set the books back, but until then the listener
goes on listening whatever is done, and its topics are counted. Whoever waits for a sample is told
the same error, and finds the same books. -/
theorem failed_attach {settings : Settings} {acts : List Act} {broker : Broker} {edgeId : String}
    {channels : List String} {why : FeedError} {f' : Feed}
    (h : attach broker edgeId channels (run settings acts) = .error why f') :
    (SameBooks (run settings acts) f' ↔ ∃ t, why = .template t) ∧
    ((∀ t, why ≠ .template t) → ∃ l, (run settings acts).newcomer? edgeId channels = some l ∧
      LeftBehind (run settings acts) f' l (subscriptions broker (run settings acts).settings.quality
        ((run settings acts).newTopics l)) ∧
      ((f'.detach l.id).listeners = (run settings acts).listeners ∧
        ∀ topic, (f'.detach l.id).holders.get? topic = (run settings acts).holders.get? topic ∧
          ((run settings acts).audience topic = 0 →
            (f'.detach l.id).latest.get? topic = (run settings acts).latest.get? topic)) ∧
      ∀ later : List Act, .detach l.id ∉ later →
        (later.foldl after f').Listens l.id l.topics ∧
          ∀ topic ∈ l.topics, ∃ count,
            (later.foldl after f').holders.get? topic = some (count + 1)) ∧
    ∀ arriving accepts, await broker arriving edgeId channels accepts (run settings acts) =
      .error why f' := by
  have hsound := sound_run settings acts
  refine ⟨sameBooks_iff_of_attach hsound h, fun hwhy => ?_, fun arriving accepts => ?_⟩
  · rcases attach_error_cases h with ⟨⟨t, ht⟩, -⟩ | ⟨-, -, l, hl, rfl⟩
    · exact absurd ht (hwhy t)
    have htraffic := isTraffic_subscriptions broker (run settings acts).settings.quality
      ((run settings acts).newTopics l)
    have hleft := leftBehind_of_traffic hsound hl htraffic
    have hsound' := ((meets_meet _ (.joined edgeId channels)).sound hsound).meetAll
      (subscriptions broker (run settings acts).settings.quality ((run settings acts).newTopics l))
    have hlistens : Listens _ l.id l.topics := ⟨l, by rw [hleft.listeners]; simp, rfl, rfl⟩
    refine ⟨l, hl, hleft, detach_leftBehind hsound hsound' (newcomer_spec hl).1 hleft,
      fun later hlater => ⟨hlistens.run hlater, fun topic htopic => ?_⟩⟩
    exact (hlistens.run hlater).holders_pos (hsound'.foldl later) htopic
  · rw [await, bind_apply, h]

/-- Why a program fails, if it does. -/
def failure? {α : Type} : EStateM.Result FeedError Feed α → Option FeedError
  | .ok _ _ => none
  | .error why _ => some why

theorem exists_of_failure? {α : Type} {r : EStateM.Result FeedError Feed α}
    (h : failure? r = some why) : ∃ f', r = .error why f' := by
  cases r with
  | ok a f' => cases h
  | error why' f' =>
    obtain rfl := Option.some.inj h
    exact ⟨f', rfl⟩

/-- A client that rejects every topic. -/
def rejecting : Broker := fun _ => .rejected "Invalid subscription filter."

/-- A name of a device that makes a topic with a wildcard in it is rejected. -/
theorem exists_rejected : ∃ f', attach rejecting "a+b" ["ess0/Soc"] (run {} [.connect quiet 0]) =
    .error (.rejected "Invalid subscription filter.") f' := by
  have hfailure : failure? (attach rejecting "a+b" ["ess0/Soc"] (run {} [.connect quiet 0])) =
      some (.rejected "Invalid subscription filter.") := by decide +kernel
  exact exists_of_failure? hfailure

theorem failed_attach_wildcard :
    ∃ f' l, attach rejecting "a+b" ["ess0/Soc"] (run {} [.connect quiet 0]) =
        .error (.rejected "Invalid subscription filter.") f' ∧
      LeftBehind (run {} [.connect quiet 0]) f' l
        (subscriptions rejecting (run {} [.connect quiet 0]).settings.quality
          ((run {} [.connect quiet 0]).newTopics l)) ∧
      (f'.detach l.id).listeners = (run {} [.connect quiet 0]).listeners := by
  obtain ⟨f', hf'⟩ := exists_rejected
  obtain ⟨-, hleft, -⟩ := failed_attach hf'
  obtain ⟨l, -, hleft, ⟨hdetached, -⟩, -⟩ := hleft (by simp)
  exact ⟨f', l, hf', hleft, hdetached⟩

/-- **Not every failed attempt leaves the books as they were**: a topic that the client rejects goes
on being counted. -/
theorem not_always_sameBooks :
    ¬∀ (settings : Settings) (acts : List Act) (broker : Broker) (edgeId : String)
      (channels : List String) (reason : String) (f' : Feed),
      attach broker edgeId channels (run settings acts) = .error (.rejected reason) f' →
        SameBooks (run settings acts) f' := by
  intro h
  obtain ⟨f', hf'⟩ := exists_rejected
  obtain ⟨t, ht⟩ := (sameBooks_iff_of_attach (sound_run _ _) hf').mp (h _ _ _ _ _ _ _ hf')
  cases ht

end Feed

end Commissioning
