import Commissioning.Proofs.Assoc
import Commissioning.Proofs.Live.Course

/-!
# The books of a feed

A feed keeps three accounts: how many listen to each topic, the latest value of each topic, and, at
the broker, a subscription for each topic. They are kept apart and changed at different moments, and
they have to agree with who listens.

The first two agree after every event (`Commissioning.Feed.Sound`,
`Commissioning.Feed.sound_ofHistory`): the count of a topic is the number of its listeners, with no
entry where there are none, and then there is no value either. The value of a topic is the last one
that has arrived since somebody listens to it (`Commissioning.Feed.latest_eq_heard`): nothing is
kept from before the topic was last given up by everybody.

The subscriptions agree after every act that the broker does not cut short
(`Commissioning.Feed.inStep_after`), while the client is connected. A new connection starts without
any, and then all topics are asked for that somebody listens to.
-/

namespace Commissioning

/-! ### Listeners -/

/-- A listener as it is made: it takes samples, and each channel has one topic. -/
structure Listener.Proper (l : Listener) : Prop where
  isOpen : l.isOpen = true
  nodup : l.topics.Nodup
  topic_eq : ∀ {t t' c : String}, l.channels.get? t = some c → l.channels.get? t' = some c → t = t'

theorem exists_of_mem_mapM {ε α β : Type} {make : α → Except ε β} :
    ∀ {as : List α} {bs : List β}, as.mapM make = .ok bs → ∀ b ∈ bs, ∃ a, make a = .ok b
  | [], bs, h, b, hb => by
    rw [List.mapM_nil] at h
    obtain rfl := Except.ok.inj h
    cases hb
  | a :: as, bs, h, b, hb => by
    rw [List.mapM_cons] at h
    cases hmake : make a with
    | error e =>
      rw [hmake] at h
      cases h
    | ok b' =>
      cases hrest : as.mapM make with
      | error e =>
        rw [hmake, hrest] at h
        cases h
      | ok bs' =>
        rw [hmake, hrest] at h
        obtain rfl := Except.ok.inj h
        rcases List.mem_cons.mp hb with rfl | hb
        · exact ⟨a, hmake⟩
        · exact exists_of_mem_mapM hrest b hb

namespace Feed

/-- Each topic in a table of channels is made from its channel. -/
theorem exists_pairs_of_channelsByTopic {f : Feed} {edgeId : String} {channels : List String}
    {table : Assoc String String} (h : f.channelsByTopic edgeId channels = .ok table) :
    ∃ pairs : List (String × String), table = Assoc.ofList pairs ∧
      ∀ p ∈ pairs, f.topicFor edgeId p.2 = .ok p.1 := by
  unfold channelsByTopic at h
  cases hpairs : channels.mapM fun channel => do return (← f.topicFor edgeId channel, channel) with
  | error why =>
    rw [hpairs] at h
    cases h
  | ok pairs =>
    rw [hpairs] at h
    refine ⟨pairs, (Except.ok.inj h).symm, fun p hp => ?_⟩
    obtain ⟨c, hc⟩ := exists_of_mem_mapM hpairs p hp
    cases htopic : f.topicFor edgeId c with
    | error why =>
      rw [htopic] at hc
      cases hc
    | ok t =>
      rw [htopic] at hc
      obtain rfl := Except.ok.inj hc
      exact htopic

/-- **Who joins** is new and proper, and has not heard anything. -/
theorem newcomer_spec {f : Feed} {edgeId : String} {channels : List String} {l : Listener}
    (h : f.newcomer? edgeId channels = some l) :
    l.id = f.nextListener ∧ l.Proper ∧ l.snapshot = [] ∧ l.samples = [] := by
  unfold newcomer? at h
  cases htable : f.channelsByTopic edgeId channels with
  | error why =>
    rw [htable] at h
    cases h
  | ok table =>
    rw [htable] at h
    obtain rfl := Option.some.inj h
    obtain ⟨pairs, rfl, hpairs⟩ := exists_pairs_of_channelsByTopic htable
    have htopic : ∀ t c, (Assoc.ofList pairs).get? t = some c → f.topicFor edgeId c = .ok t := by
      intro t c hget
      rw [Assoc.get?_ofList] at hget
      exact hpairs (t, c) (Assoc.mem_of_last? hget)
    refine ⟨rfl, ⟨rfl, ?_, ?_⟩, rfl, rfl⟩
    · show (Assoc.ofList pairs).keys.Nodup
      exact Assoc.nodup_keys_ofList pairs
    · intro t t' c hc hc'
      exact Except.ok.inj ((htopic t c hc).symm.trans (htopic t' c hc'))

/-! ### Counting -/

/-- How many listen to a topic. -/
def audience (f : Feed) (topic : String) : Nat := f.listeners.countP fun l => topic ∈ l.topics

/-- The entry for a count: none for nobody. -/
def entry (count : Nat) : Option Nat := if count = 0 then none else some count

theorem getD_entry (count : Nat) : (entry count).getD 0 = count := by
  unfold entry
  split <;> simp_all

theorem has_holders {f : Feed} {topic : String}
    (h : f.holders.get? topic = entry (f.audience topic)) :
    f.holders.has topic = true ↔ f.audience topic ≠ 0 := by
  unfold Assoc.has
  rw [h, entry]
  split <;> simp_all

/-- One more is counted for each of some topics. -/
theorem get?_hold {topics : List String} (h : topics.Nodup) (holders : Assoc String Nat)
    (topic : String) :
    (hold holders topics).get? topic =
      if topic ∈ topics then some ((holders.get? topic).getD 0 + 1) else holders.get? topic := by
  induction topics generalizing holders with
  | nil => rfl
  | cons t topics ih =>
    obtain ⟨ht, htopics⟩ := List.nodup_cons.mp h
    have hcons : hold holders (t :: topics) =
        hold (holders.put t ((holders.get? t).getD 0 + 1)) topics := rfl
    rw [hcons, ih htopics, Assoc.get?_put]
    by_cases heq : t = topic
    · subst heq
      simp [ht]
    · have heq' : ¬topic = t := fun e => heq e.symm
      simp [heq, heq']

/-- One fewer is counted for each of some topics, and with the last one the value goes. -/
theorem get?_releaseTopics {topics : List String} (h : topics.Nodup) (f : Feed) (topic : String) :
    (topics.foldl releaseTopic f).holders.get? topic =
        (if topic ∈ topics then
          if (f.holders.get? topic).getD 0 ≤ 1 then none
          else some ((f.holders.get? topic).getD 0 - 1)
        else f.holders.get? topic) ∧
      (topics.foldl releaseTopic f).latest.get? topic =
        if topic ∈ topics ∧ (f.holders.get? topic).getD 0 ≤ 1 then none
        else f.latest.get? topic := by
  induction topics generalizing f with
  | nil => exact ⟨rfl, rfl⟩
  | cons t topics ih =>
    obtain ⟨ht, htopics⟩ := List.nodup_cons.mp h
    obtain ⟨hholders, hlatest⟩ := ih htopics (f.releaseTopic t)
    rw [List.foldl_cons, hholders, hlatest, releaseTopic_eq]
    by_cases heq : t = topic
    · subst heq
      by_cases hlast : (f.holders.get? t).getD 0 ≤ 1 <;> simp [ht, hlast, Assoc.get?_erase]
    · have heq' : ¬topic = t := fun e => heq e.symm
      by_cases hlast : (f.holders.get? t).getD 0 ≤ 1 <;>
        simp [hlast, heq, heq', Assoc.get?_erase, Assoc.get?_put]

/-- Of listeners with identifiers of their own, one goes with its identifier. -/
theorem countP_filter_id {p : Listener → Bool} {l : Listener} :
    ∀ {ls : List Listener}, (ls.map Listener.id).Nodup → l ∈ ls →
      ls.countP p = (ls.filter (·.id != l.id)).countP p + if p l then 1 else 0
  | l' :: ls, h, hl => by
    obtain ⟨hnew, hls⟩ := List.nodup_cons.mp h
    by_cases heq : l'.id = l.id
    -- The listener in front goes, and nobody behind it has its identifier.
    · have hothers : ls.filter (·.id != l.id) = ls := by
        refine List.filter_eq_self.mpr fun k hk => ?_
        refine bne_iff_ne.mpr fun hid => hnew (List.mem_map.mpr ⟨k, hk, ?_⟩)
        exact hid.trans heq.symm
      rcases List.mem_cons.mp hl with rfl | hl
      · rw [List.filter_cons_of_neg (by simp), hothers, List.countP_cons]
      · exact absurd (List.mem_map.mpr ⟨l, hl, heq.symm⟩) hnew
    · rcases List.mem_cons.mp hl with rfl | hl
      · exact absurd rfl heq
      · rw [List.filter_cons_of_pos (by simp [heq]), List.countP_cons, List.countP_cons,
          countP_filter_id hls hl]
        omega

/-! ### Events and the books -/

theorem proper_handed {l : Listener} (h : l.Proper) (d : Delivery) : (handed d l).Proper := by
  unfold handed
  split
  · exact ⟨h.isOpen, h.nodup, h.topic_eq⟩
  · exact h

/-- **The books of a feed are in order.** -/
structure Sound (f : Feed) : Prop where
  nodup : (f.listeners.map Listener.id).Nodup
  id_lt : ∀ l ∈ f.listeners, l.id < f.nextListener
  proper : ∀ l ∈ f.listeners, l.Proper
  pending_lt : ∀ d ∈ f.pending, d.listener < f.nextListener
  holders : ∀ topic, f.holders.get? topic = entry (f.audience topic)
  latest : ∀ topic, f.audience topic = 0 → f.latest.get? topic = none

theorem sound_create (settings : Settings) : (create settings).Sound where
  nodup := List.nodup_nil
  id_lt := nofun
  proper := nofun
  pending_lt := nofun
  holders _ := rfl
  latest _ _ := rfl

theorem listener_of_mem_parcels {l : Listener} {topic : String} {value : Json} {d : Delivery}
    (h : d ∈ l.parcels topic value) : d.listener = l.id := by
  unfold Listener.parcels at h
  split at h
  · obtain ⟨c, -, rfl⟩ := List.mem_map.mp h
    rfl
  · cases h

/-- What a listener who joins does to the books. -/
theorem sound_joined {f : Feed} (h : f.Sound) {edgeId : String} {channels : List String}
    {l : Listener} (hl : f.newcomer? edgeId channels = some l) :
    Sound { f.enroll l with
      pending := f.pending ++ (f.cachedFor l).flatMap fun v => l.parcels v.1 v.2 } := by
  obtain ⟨hid, hproper, -, -⟩ := newcomer_spec hl
  have haudience : ∀ topic, (f.enroll l).audience topic =
      f.audience topic + if topic ∈ l.topics then 1 else 0 := by
    intro topic
    simp [audience, enroll, List.countP_append, List.countP_singleton]
  refine ⟨?_, ?_, ?_, ?_, fun topic => ?_, fun topic hnone => ?_⟩
  · have hnew : l.id ∉ f.listeners.map Listener.id := by
      intro hmem
      obtain ⟨k, hk, hkid⟩ := List.mem_map.mp hmem
      have := h.id_lt k hk
      omega
    simpa [enroll, List.nodup_append_comm] using List.nodup_cons.mpr ⟨hnew, h.nodup⟩
  · intro k hk
    rcases List.mem_append.mp hk with hk | hk
    · exact Nat.lt_succ_of_lt (h.id_lt k hk)
    · rw [List.mem_singleton.mp hk, hid]
      exact Nat.lt_succ_self _
  · intro k hk
    rcases List.mem_append.mp hk with hk | hk
    · exact h.proper k hk
    · rw [List.mem_singleton.mp hk]
      exact hproper
  · intro d hd
    rcases List.mem_append.mp hd with hd | hd
    · exact Nat.lt_succ_of_lt (h.pending_lt d hd)
    · obtain ⟨v, -, hd⟩ := List.mem_flatMap.mp hd
      rw [listener_of_mem_parcels hd, hid]
      exact Nat.lt_succ_self _
  · show (hold f.holders l.topics).get? topic = entry ((f.enroll l).audience topic)
    rw [get?_hold hproper.nodup, haudience, h.holders, getD_entry]
    split
    · exact (if_neg (Nat.succ_ne_zero _)).symm
    · rfl
  · have haud : f.audience topic = 0 := by
      have : (f.enroll l).audience topic = 0 := hnone
      rw [haudience] at this
      omega
    exact h.latest topic haud

/-- **What is left when a listener leaves**: the counts of the others, and the values of the topics
that somebody still listens to. -/
theorem release_spec {f : Feed} (h : f.Sound) {l : Listener} (hl : l ∈ f.listeners)
    (topic : String) :
    f.audience topic = (f.release l).audience topic + (if topic ∈ l.topics then 1 else 0) ∧
      (f.release l).holders.get? topic = entry ((f.release l).audience topic) ∧
      (f.release l).latest.get? topic =
        if (f.release l).audience topic = 0 then none else f.latest.get? topic := by
  have hcount : f.audience topic =
      (f.release l).audience topic + if topic ∈ l.topics then 1 else 0 := by
    obtain ⟨holders, latest, hrelease⟩ := release_frame f l
    rw [hrelease, audience, countP_filter_id h.nodup hl]
    simp [audience]
  obtain ⟨hholders, hlatest⟩ := get?_releaseTopics (h.proper l hl).nodup
    { f with listeners := f.listeners.filter (·.id != l.id) } topic
  refine ⟨hcount, hholders.trans ?_, hlatest.trans ?_⟩
  · show (if _ then if (f.holders.get? topic).getD 0 ≤ 1 then _ else _
      else f.holders.get? topic) = _
    rw [h.holders, getD_entry]
    unfold entry
    by_cases htopic : topic ∈ l.topics
    -- With the last one the entry goes; otherwise the count is one less.
    · rw [if_pos htopic] at hcount ⊢
      by_cases hlast : (f.release l).audience topic = 0
      · rw [if_pos (by omega), if_pos hlast]
      · rw [if_neg (by omega), if_neg hlast]
        exact congrArg some (by omega)
    · rw [if_neg htopic] at hcount ⊢
      rw [hcount, Nat.add_zero]
  · show (if _ ∧ (f.holders.get? topic).getD 0 ≤ 1 then _ else f.latest.get? topic) = _
    rw [h.holders, getD_entry]
    by_cases htopic : topic ∈ l.topics
    · rw [if_pos htopic] at hcount
      refine if_congr ⟨fun hlast => by omega, fun hlast => ⟨htopic, by omega⟩⟩ rfl rfl
    · rw [if_neg htopic] at hcount
      rw [if_neg fun hboth => htopic hboth.1]
      split
      · next hnone => exact h.latest topic (by omega)
      · rfl

theorem sound_release {f : Feed} (h : f.Sound) {l : Listener} (hl : l ∈ f.listeners) :
    (f.release l).Sound := by
  have hspec := release_spec h hl
  obtain ⟨holders, latest, hrelease⟩ := release_frame f l
  rw [hrelease] at hspec ⊢
  have hmem : ∀ k ∈ f.listeners.filter (·.id != l.id), k ∈ f.listeners := fun k hk =>
    List.mem_of_mem_filter hk
  refine ⟨h.nodup.sublist (List.filter_sublist.map _), fun k hk => h.id_lt k (hmem k hk),
    fun k hk => h.proper k (hmem k hk), h.pending_lt, fun topic => (hspec topic).2.1,
    fun topic hnone => ?_⟩
  rw [(hspec topic).2.2, if_pos hnone]

/-- A value that arrives is kept if somebody listens to its topic. -/
theorem sound_arrived {f : Feed} (h : f.Sound) (topic : String) (value : Json) :
    Sound { f with
      latest := if f.holders.has topic then f.latest.put topic value else f.latest
      pending := f.pending ++ f.listeners.flatMap fun l => l.parcels topic value } := by
  refine ⟨h.nodup, h.id_lt, h.proper, fun d hd => ?_, h.holders, fun t hnone => ?_⟩
  · rcases List.mem_append.mp hd with hd | hd
    · exact h.pending_lt d hd
    · obtain ⟨l, hl, hd⟩ := List.mem_flatMap.mp hd
      rw [listener_of_mem_parcels hd]
      exact h.id_lt l hl
  · have hnone : f.audience t = 0 := hnone
    show Assoc.get? (if _ then _ else _) t = none
    split
    · next hheld =>
      -- Somebody listens to the topic that the value is kept for, and nobody to this one.
      have hother : topic ≠ t := by
        rintro rfl
        exact (has_holders (h.holders topic)).mp hheld hnone
      rw [Assoc.get?_put, if_neg hother]
      exact h.latest t hnone
    · exact h.latest t hnone

theorem sound_pushed {f : Feed} (h : f.Sound) {d : Delivery} {rest : List Delivery}
    (hpending : f.pending = d :: rest) :
    Sound { f with pending := rest, listeners := f.listeners.map (handed d) } := by
  have haudience : ∀ topic, audience
      { f with pending := rest, listeners := f.listeners.map (handed d) } topic =
        f.audience topic := by
    intro topic
    simp [audience, List.countP_map, Function.comp_def]
  refine ⟨?_, ?_, ?_, fun d' hd' => ?_, fun topic => ?_, fun topic hnone => ?_⟩
  · simpa [Function.comp_def] using h.nodup
  · exact List.forall_mem_map.mpr fun l hl => by
      rw [id_handed]
      exact h.id_lt l hl
  · exact List.forall_mem_map.mpr fun l hl => proper_handed (h.proper l hl) d
  · exact h.pending_lt d' (hpending ▸ List.mem_cons_of_mem _ hd')
  · rw [haudience]
    exact h.holders topic
  · rw [haudience] at hnone
    exact h.latest topic hnone

/-- **Every event keeps the books in order.** -/
theorem Meets.sound {f f' : Feed} {e : Event} (hmeets : Meets f e f') (h : f.Sound) : f'.Sound := by
  cases hmeets with
  | unjoined => exact h
  | joined hl => exact sound_joined h hl
  | unknown => exact h
  | left hl hrelease => exact hrelease ▸ sound_release h (List.mem_of_find?_eq_some hl)
  | arrived topic value => exact sound_arrived h topic value
  | called => exact ⟨h.nodup, h.id_lt, h.proper, h.pending_lt, h.holders, h.latest⟩
  | connected => exact ⟨h.nodup, h.id_lt, h.proper, h.pending_lt, h.holders, h.latest⟩
  | disconnected => exact ⟨h.nodup, h.id_lt, h.proper, h.pending_lt, h.holders, h.latest⟩
  | idle => exact h
  | pushed hpending => exact sound_pushed h hpending

/-- **The books are in order after every history.** -/
theorem sound_ofHistory (settings : Settings) (past : List Event) :
    (ofHistory settings past).Sound := by
  induction past with
  | nil => exact sound_create settings
  | cons e past ih => exact (meets_meet _ e).sound ih

/-! ### What has been heard -/

/-- The value that an event brings for a topic. -/
def Event.value? (topic : String) : Event → Option Json
  | .arrived t value => if t = topic then some value else none
  | _ => none

/-- **What has been heard on a topic**: the values that have arrived since somebody listens to it,
the latest one first. Nothing of it is left when nobody listens. -/
def heard (settings : Settings) (topic : String) : List Event → List Json
  | [] => []
  | e :: past =>
    if (ofHistory settings (e :: past)).audience topic = 0 then []
    else (e.value? topic).toList ++ heard settings topic past

/-- While somebody listens to a topic, an event changes its value only by bringing another. -/
theorem Meets.latest {f f' : Feed} {e : Event} (hmeets : Meets f e f') (h : f.Sound)
    {topic : String} (hheld : f'.audience topic ≠ 0) :
    f'.latest.get? topic = (e.value? topic).or (f.latest.get? topic) := by
  cases hmeets with
  | left hl hrelease =>
    obtain ⟨-, -, hlatest⟩ := release_spec h (List.mem_of_find?_eq_some hl) topic
    rw [hrelease, if_neg hheld] at hlatest
    exact hlatest
  | arrived t value =>
    have hheld : f.audience topic ≠ 0 := hheld
    have hhas := (has_holders (h.holders topic)).mpr hheld
    show Assoc.get? (if _ then _ else _) topic = _
    by_cases heq : t = topic
    · subst heq
      simp [hhas, Event.value?]
    · simp only [Event.value?, if_neg heq, Option.none_or]
      split
      · rw [Assoc.get?_put, if_neg heq]
      · rfl
  | _ => rfl

/-- **The value of a topic is the last one heard.** -/
theorem latest_eq_heard (settings : Settings) (past : List Event) (topic : String) :
    (ofHistory settings past).latest.get? topic = (heard settings topic past).head? := by
  induction past with
  | nil => rfl
  | cons e past ih =>
    rw [heard]
    split
    · next hnone => exact (sound_ofHistory settings (e :: past)).latest topic hnone
    · next hheld =>
      rw [ofHistory, (meets_meet _ e).latest (sound_ofHistory settings past) hheld, ih,
        List.head?_append]
      cases e.value? topic <;> rfl

/-! ### What has been requested -/

/-- The request that an event is. -/
def Event.request? : Event → Option ClientCall
  | .called request => some request
  | _ => none

theorem Meets.calls {f f' : Feed} {e : Event} (hmeets : Meets f e f') :
    f'.calls = f.calls ++ e.request?.toList := by
  cases hmeets with
  | called => rfl
  | _ => exact (List.append_nil _).symm

/-- **The client is requested what the history says**, after its making. -/
theorem calls_ofHistory (settings : Settings) (past : List Event) :
    (ofHistory settings past).calls =
      (create settings).calls ++ past.reverse.filterMap Event.request? := by
  induction past with
  | nil => exact (List.append_nil _).symm
  | cons e past ih =>
    rw [ofHistory, (meets_meet _ e).calls, ih, List.reverse_cons, List.filterMap_append,
      List.append_assoc]
    cases e <;> rfl

/-- **Whether a topic is subscribed to**: the last request about it since the client has last
connected was to subscribe. -/
def subscribed (topic : String) : List Event → Bool
  | [] => false
  | .connected :: _ => false
  | .called (.subscribe t _) :: past => if t = topic then true else subscribed topic past
  | .called (.unsubscribe t) :: past => if t = topic then false else subscribed topic past
  | _ :: past => subscribed topic past

theorem subscribed_arrivals (topic : String) (ms : List Message) (past : List Event) :
    subscribed topic ((arrivals ms).reverse ++ past) = subscribed topic past := by
  induction ms generalizing past with
  | nil => rfl
  | cons m ms ih =>
    unfold arrivals
    split
    · rw [List.reverse_cons, List.append_assoc, ih]
      rfl
    · rfl

/-- A broker that lets every act come to its end. It may refuse a topic; but the client rejects
none, and the messages that are kept for it can be read. -/
def Obliging (broker : Broker) : Prop :=
  ∀ topic, match broker topic with
    | .granted retained => fault? retained = none
    | .refused => True
    | .rejected _ => False

theorem obliging_quiet : Obliging quiet := fun _ => rfl

/-- All topics that a subscription is requested for are subscribed to, whatever is refused. -/
theorem subscribed_subscriptions {broker : Broker} (h : Obliging broker) (quality : Int)
    (topic : String) (topics : List String) (past : List Event) :
    subscribed topic ((subscriptions broker quality topics).reverse ++ past) =
      (decide (topic ∈ topics) || subscribed topic past) := by
  induction topics generalizing past with
  | nil => simp [subscriptions]
  | cons t topics ih =>
    have hone : subscribed topic (.called (.subscribe t quality) :: past) =
        if t = topic then true else subscribed topic past := rfl
    have hall : ∀ rest, subscribed topic rest =
          (if t = topic then true else subscribed topic past) →
        (decide (topic ∈ topics) || subscribed topic rest) =
          (decide (topic ∈ t :: topics) || subscribed topic past) := by
      intro rest hrest
      rw [hrest]
      by_cases heq : t = topic
      · simp [heq]
      · have heq' : ¬topic = t := fun e => heq e.symm
        simp [heq, heq']
    -- Whatever the answer, the requests for the other topics follow this one.
    have hanswer := h t
    rw [subscriptions, List.reverse_cons, List.append_assoc, List.singleton_append]
    cases hbroker : broker t with
    | granted retained =>
      simp only [hbroker] at hanswer
      simp only [hanswer, Option.isNone_none, if_true, List.reverse_append, List.append_assoc]
      rw [ih]
      exact hall _ ((subscribed_arrivals topic retained _).trans hone)
    | refused =>
      rw [ih]
      exact hall _ hone
    | rejected why =>
      rw [hbroker] at hanswer
      exact hanswer.elim

/-- No topic is subscribed to whose subscription is requested to end. -/
theorem subscribed_unsubscriptions (topic : String) (topics : List String) (past : List Event) :
    subscribed topic ((topics.map fun t => .called (.unsubscribe t)).reverse ++ past) =
      (decide (topic ∉ topics) && subscribed topic past) := by
  induction topics generalizing past with
  | nil => simp
  | cons t topics ih =>
    rw [List.map_cons, List.reverse_cons, List.append_assoc, ih, List.singleton_append, subscribed]
    by_cases heq : t = topic
    · simp [heq]
    · have heq' : ¬topic = t := fun e => heq e.symm
      simp [heq, heq']

/-! ### Keeping in step -/

/-- An act that the broker lets come to its end. -/
def Act.Untroubled : Act → Prop
  | .attach broker _ _ => Obliging broker
  | .connect broker _ => Obliging broker
  | _ => True

/-- While the client is connected, it is subscribed to what somebody listens to. -/
def InStep (f : Feed) (past : List Event) : Prop :=
  f.connected = true → ∀ topic, subscribed topic past = f.holders.has topic

/-- Traffic is what a broker is asked and what it sends. -/
def Event.IsTraffic : Event → Prop
  | .called _ => True
  | .arrived _ _ => True
  | _ => False

theorem isTraffic_arrivals (ms : List Message) : ∀ e ∈ arrivals ms, e.IsTraffic := by
  induction ms with
  | nil => exact List.forall_mem_nil _
  | cons m ms ih =>
    unfold arrivals
    split
    · exact List.forall_mem_cons.mpr ⟨trivial, ih⟩
    · exact List.forall_mem_nil _

theorem isTraffic_subscriptions (broker : Broker) (quality : Int) (topics : List String) :
    ∀ e ∈ subscriptions broker quality topics, e.IsTraffic := by
  induction topics with
  | nil => exact List.forall_mem_nil _
  | cons t topics ih =>
    rw [subscriptions]
    refine List.forall_mem_cons.mpr ⟨trivial, ?_⟩
    split
    · refine List.forall_mem_append.mpr ⟨isTraffic_arrivals _, ?_⟩
      split
      · exact ih
      · exact List.forall_mem_nil _
    · exact ih
    · exact List.forall_mem_nil _

theorem isTraffic_unsubscriptions (topics : List String) :
    ∀ e ∈ topics.map fun t => Event.called (.unsubscribe t), e.IsTraffic :=
  List.forall_mem_map.mpr fun _ _ => trivial

/-- Traffic leaves the connection and the counts as they are. -/
theorem meetAll_traffic {events : List Event} (h : ∀ e ∈ events, e.IsTraffic) (f : Feed) :
    (f.meetAll events).connected = f.connected ∧ (f.meetAll events).holders = f.holders := by
  induction events generalizing f with
  | nil => exact ⟨rfl, rfl⟩
  | cons e events ih =>
    obtain ⟨he, hevents⟩ := List.forall_mem_cons.mp h
    obtain ⟨hconnected, hholders⟩ := ih hevents (f.meet e)
    rw [meetAll_cons, hconnected, hholders]
    cases e with
    | called request => exact ⟨rfl, rfl⟩
    | arrived topic value =>
      rw [meet, postAll_eq, remember_eq]
      exact ⟨rfl, rfl⟩
    | joined => exact he.elim
    | left => exact he.elim
    | connected => exact he.elim
    | disconnected => exact he.elim
    | pushed => exact he.elim

/-- After traffic, the feed is in step if what has been requested by then fits what is held. -/
theorem inStep_traffic {f : Feed} {events past : List Event} (htraffic : ∀ e ∈ events, e.IsTraffic)
    (h : f.connected = true → ∀ topic,
      subscribed topic (events.reverse ++ past) = f.holders.has topic) :
    InStep (f.meetAll events) (events.reverse ++ past) := by
  obtain ⟨hconnected, hholders⟩ := meetAll_traffic htraffic f
  rw [InStep, hconnected, hholders]
  exact h

/-- Who joins may have to be subscribed for: the topics that are new with the listener are. -/
theorem inStep_attach {f : Feed} {past : List Event} (h : InStep f past) {broker : Broker}
    (hbroker : Obliging broker) (edgeId : String) (channels : List String) :
    InStep (f.after (.attach broker edgeId channels))
      ((f.events (.attach broker edgeId channels)).reverse ++ past) := by
  rw [after_eq, events, meetAll_cons, List.reverse_cons, List.append_assoc, List.singleton_append,
    meet]
  cases hl : f.newcomer? edgeId channels with
  | none => exact h
  | some l =>
    simp only [postCached_eq]
    have htraffic : ∀ e ∈ if f.connected then
        subscriptions broker f.settings.quality (f.newTopics l) else [], e.IsTraffic := by
      split
      · exact isTraffic_subscriptions broker _ _
      · exact List.forall_mem_nil _
    refine inStep_traffic htraffic fun hconnected topic => ?_
    have hconnected : f.connected = true := hconnected
    have hpast : subscribed topic (.joined edgeId channels :: past) = f.holders.has topic :=
      h hconnected topic
    obtain ⟨-, hproper, -⟩ := newcomer_spec hl
    rw [if_pos hconnected, subscribed_subscriptions hbroker, hpast]
    show _ = Assoc.has (hold f.holders l.topics) topic
    rw [Assoc.has, Assoc.has, get?_hold hproper.nodup, newTopics]
    cases hget : f.holders.get? topic <;> by_cases htopic : topic ∈ l.topics <;>
      simp [htopic, hget, Assoc.has]

/-- Who leaves may end subscriptions: those to the topics of nobody else. -/
theorem inStep_detach {f : Feed} (hsound : f.Sound) {past : List Event} (h : InStep f past)
    (id : Nat) :
    InStep (f.after (.detach id)) ((f.events (.detach id)).reverse ++ past) := by
  rw [after_eq, events, meetAll_cons, List.reverse_cons, List.append_assoc, List.singleton_append,
    meet]
  cases hl : f.listeners.find? (fun l => l.id == id) with
  | none => exact h
  | some l =>
    simp only
    have htraffic : ∀ e ∈ if f.connected then
        (f.releasedTopics l).map fun t => Event.called (.unsubscribe t) else [], e.IsTraffic := by
      split
      · exact isTraffic_unsubscriptions _
      · exact List.forall_mem_nil _
    refine inStep_traffic htraffic fun hconnected topic => ?_
    have hconnected : f.connected = true := by
      obtain ⟨holders, latest, hrelease⟩ := release_frame f l
      rw [hrelease] at hconnected
      exact hconnected
    have hpast : subscribed topic (.left id :: past) = f.holders.has topic := h hconnected topic
    obtain ⟨hcount, hholders, -⟩ := release_spec hsound (List.mem_of_find?_eq_some hl) topic
    rw [if_pos hconnected, subscribed_unsubscriptions, hpast, Bool.eq_iff_iff, Bool.and_eq_true,
      has_holders (hsound.holders topic), has_holders hholders,
      decide_eq_true_iff, releasedTopics, List.mem_filter, hsound.holders, getD_entry,
      decide_eq_true_iff]
    by_cases htopic : topic ∈ l.topics
    · rw [if_pos htopic] at hcount
      simp only [htopic, true_and]
      omega
    · rw [if_neg htopic] at hcount
      simp only [htopic, false_and, not_false_iff, true_and]
      omega

/-- A new connection starts without subscriptions, and all that somebody listens to is asked for. -/
theorem inStep_connect {f : Feed} {past : List Event} (h : InStep f past) {broker : Broker}
    (hbroker : Obliging broker) (code : Int) :
    InStep (f.after (.connect broker code))
      ((f.events (.connect broker code)).reverse ++ past) := by
  rw [after_eq, events]
  split
  · rw [meetAll_cons, List.reverse_cons, List.append_assoc, List.singleton_append]
    refine inStep_traffic (isTraffic_subscriptions broker _ _) fun _ topic => ?_
    rw [subscribed_subscriptions hbroker, subscribed, Bool.or_false, Bool.eq_iff_iff,
      decide_eq_true_iff, heldTopics, List.mem_mergeSort, Assoc.mem_keys_iff]
    rfl
  · exact h

/-- **Every act keeps the subscriptions in step**, unless the broker cuts it short. -/
theorem inStep_after {f : Feed} (hsound : f.Sound) {past : List Event} (h : InStep f past) {a : Act}
    (ha : a.Untroubled) : InStep (f.after a) ((f.events a).reverse ++ past) := by
  cases a with
  | attach broker edgeId channels => exact inStep_attach h ha edgeId channels
  | detach id => exact inStep_detach hsound h id
  | connect broker code => exact inStep_connect h ha code
  | disconnect => exact fun hconnected => absurd hconnected Bool.false_ne_true
  | receive m =>
    rw [after_eq, events]
    refine inStep_traffic (isTraffic_arrivals [m]) fun hconnected topic => ?_
    exact (subscribed_arrivals topic [m] past).trans (h hconnected topic)
  | push =>
    show InStep f.push (.pushed :: past)
    rcases hpending : f.pending with _ | ⟨d, rest⟩
    · rw [push, hpending]
      exact h
    · rw [push_cons hpending]
      exact h

theorem inStep_run {settings : Settings} {acts : List Act} (h : ∀ a ∈ acts, a.Untroubled) :
    InStep (run settings acts) (history settings acts) := by
  induction acts using List.reverseRecOn with
  | nil => exact fun hconnected => absurd hconnected Bool.false_ne_true
  | append_singleton acts a ih =>
    obtain ⟨hacts, ha⟩ := List.forall_mem_append.mp h
    have hsound := sound_ofHistory settings (history settings acts)
    have hrun : run settings (acts ++ [a]) = (run settings acts).after a := List.foldl_append
    rw [hrun, history_concat, ← run_eq]
    rw [← run_eq] at hsound
    exact inStep_after hsound (ih hacts) (ha a (List.mem_singleton_self a))

/-- **The books of a feed agree with who listens and with what has happened**, after every run of
acts. The count of a topic is the number of its listeners, with no entry for none; its value is the
last one that has arrived since somebody listens to it. The requests to the client are those of the
history; and as long as the broker lets the acts come to their end, the client is subscribed to the
topics with a count while it is connected. -/
theorem books_agree (settings : Settings) (acts : List Act) :
    (∀ topic, (run settings acts).holders.get? topic =
      if (run settings acts).audience topic = 0 then none
      else some ((run settings acts).audience topic)) ∧
    (∀ topic, (run settings acts).latest.get? topic =
      (heard settings topic (history settings acts)).head?) ∧
    (run settings acts).calls =
      (create settings).calls ++ (history settings acts).reverse.filterMap Event.request? ∧
    ((∀ a ∈ acts, a.Untroubled) → (run settings acts).connected = true →
      ∀ topic, subscribed topic (history settings acts) =
        (run settings acts).holders.has topic) := by
  refine ⟨fun topic => ?_, fun topic => ?_, ?_, inStep_run⟩
  · rw [run_eq]
    exact (sound_ofHistory settings (history settings acts)).holders topic
  · rw [run_eq]
    exact latest_eq_heard settings (history settings acts) topic
  · rw [run_eq]
    exact calls_ofHistory settings (history settings acts)

/-- Two listeners share a topic that is subscribed to when the client connects, and one of them
brings another topic, that is subscribed to then; the first listener leaves again. -/
def sharing : List Act :=
  [.attach quiet "edge0" ["ess0/Soc"], .connect quiet 0,
    .attach quiet "edge0" ["ess0/Soc", "ess0/Power"], .detach 0]

theorem books_agree_sharing :
    (∀ a ∈ sharing, a.Untroubled) ∧ (run {} sharing).connected = true ∧
      ∀ topic, subscribed topic (history {} sharing) = (run {} sharing).holders.has topic := by
  have huntroubled : ∀ a ∈ sharing, a.Untroubled := by
    simp [sharing, Act.Untroubled, obliging_quiet]
  have hconnected : (run {} sharing).connected = true := by decide +kernel
  obtain ⟨-, -, -, hsubscribed⟩ := books_agree {} sharing
  exact ⟨huntroubled, hconnected, hsubscribed huntroubled hconnected⟩

end Feed

end Commissioning
