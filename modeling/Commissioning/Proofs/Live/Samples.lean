import Commissioning.Proofs.Live.Bookkeeping

/-!
# The samples of a listener

What a listener gets is decided when a value arrives, and handed over later, in the order in which
it was scheduled. Meanwhile others join and leave and more values arrive. What a listener is to get
in all can be read off the history (`Commissioning.Feed.deliveries`): the values that are known of
its topics when it joins, in the order of its channels, and then each value that arrives under one
of its topics.

The invariant is that this is what has been handed to the listener, followed by what is scheduled
for it (`Commissioning.Feed.Served`). Its samples are the snapshots of the first part
(`Commissioning.Feed.snapshots`), one for each value, each with the last value of every channel so
far.

Of all that a listener is to get, the last value of a channel is the latest one of its topic
(`Commissioning.Feed.last?_deliveries`). So once all is handed over, the snapshot of a listener is
what the feed knows of its topics, whenever the listener came.
-/

namespace Commissioning

namespace Feed

/-! ### Deliveries -/

/-- What an event gives to the listener with an identifier, by channel. -/
def handedTo (f : Feed) (id : Nat) : Event → List (String × Json)
  | .joined edgeId channels =>
    match f.newcomer? edgeId channels with
    | some l =>
      if l.id = id then l.channels.filterMap fun p => (f.latest.get? p.1).map fun v => (p.2, v)
      else []
    | none => []
  | .arrived topic value =>
    match f.listeners.find? (·.id == id) with
    | some l => (l.channels.get? topic).toList.map fun c => (c, value)
    | none => []
  | _ => []

/-- **What the listener with an identifier is to get**, the first value in front. -/
def deliveries (settings : Settings) (id : Nat) : List Event → List (String × Json)
  | [] => []
  | e :: past => deliveries settings id past ++ handedTo (ofHistory settings past) id e

/-- **The samples that values make**: one for each, with the last value of every channel so far. -/
def snapshots (values : List (String × Json)) : List Sample :=
  (List.range values.length).map fun k => Assoc.ofList (values.take (k + 1))

theorem snapshots_concat (values : List (String × Json)) (p : String × Json) :
    snapshots (values ++ [p]) = snapshots values ++ [Assoc.ofList (values ++ [p])] := by
  rw [snapshots, List.length_append, List.length_singleton, List.range_succ, List.map_append]
  refine congrArg₂ (· ++ ·) (List.map_congr_left fun k hk => ?_) ?_
  · have hk := List.mem_range.mp hk
    rw [List.take_append_of_le_length (by omega)]
  · rw [List.map_singleton, List.take_of_length_le (by simp)]

/-- What is scheduled for the listener with an identifier. -/
def outstanding (id : Nat) (pending : List Delivery) : List (String × Json) :=
  (pending.filter (·.listener == id)).map fun d => (d.channel, d.value)

theorem outstanding_append (id : Nat) (pending more : List Delivery) :
    outstanding id (pending ++ more) = outstanding id pending ++ outstanding id more := by
  simp [outstanding]

/-- Nothing is scheduled for a listener among what is scheduled for others. -/
theorem outstanding_eq_nil {id : Nat} {pending : List Delivery}
    (h : ∀ d ∈ pending, d.listener ≠ id) : outstanding id pending = [] := by
  rw [outstanding, List.filter_eq_nil_iff.mpr fun d hd => by simp [h d hd], List.map_nil]

theorem outstanding_parcels {l : Listener} (h : l.isOpen = true) (topic : String) (value : Json) :
    outstanding l.id (l.parcels topic value) =
      (l.channels.get? topic).toList.map fun c => (c, value) := by
  unfold Listener.parcels
  cases l.channels.get? topic <;> simp [h, outstanding]

/-- **A listener is being served**: what it is to get has been handed to it, one sample for each
value, up to what is still scheduled. -/
def Served (l : Listener) (values : List (String × Json)) (pending : List Delivery) : Prop :=
  ∃ handled, values = handled ++ outstanding l.id pending ∧ l.samples = snapshots handled ∧
    l.snapshot = Assoc.ofList handled

/-- A listener is served on if more is scheduled as it is to get more. -/
theorem served_append {l : Listener} {values more : List (String × Json)}
    {pending extra : List Delivery} (h : Served l values pending)
    (hmore : outstanding l.id extra = more) :
    Served l (values ++ more) (pending ++ extra) := by
  obtain ⟨handled, hvalues, hsamples, hsnapshot⟩ := h
  refine ⟨handled, ?_, hsamples, hsnapshot⟩
  rw [hvalues, outstanding_append, hmore, List.append_assoc]

/-- Handing over what was scheduled first goes on with serving, whoever it is for. -/
theorem served_handed {l : Listener} {values : List (String × Json)} {d : Delivery}
    {rest : List Delivery} (h : Served l values (d :: rest)) :
    Served (handed d l) values rest := by
  obtain ⟨handled, hvalues, hsamples, hsnapshot⟩ := h
  by_cases hid : l.id = d.listener
  -- The value goes over from what is scheduled to what has been handed over.
  · have hhanded : handed d l = l.take d.channel d.value := if_pos (beq_iff_eq.mpr hid)
    refine ⟨handled ++ [(d.channel, d.value)], ?_, ?_, ?_⟩
    · rw [hvalues, id_handed]
      simp [outstanding, hid]
    · rw [hhanded, snapshots_concat, Assoc.ofList_concat, ← hsnapshot, ← hsamples]
      rfl
    · rw [hhanded, Assoc.ofList_concat, ← hsnapshot]
      rfl
  · have hhanded : handed d l = l := if_neg fun h => hid (beq_iff_eq.mp h)
    have hothers : outstanding l.id (d :: rest) = outstanding l.id rest := by
      simp [outstanding, Ne.symm hid]
    rw [hhanded]
    exact ⟨handled, by rw [hvalues, hothers], hsamples, hsnapshot⟩

/-! ### Who is given what -/

/-- A listener is found by its identifier. -/
theorem find?_id {l : Listener} :
    ∀ {ls : List Listener}, (ls.map Listener.id).Nodup → l ∈ ls →
      ls.find? (fun k => k.id == l.id) = some l
  | k :: ls, h, hl => by
    obtain ⟨hnew, hls⟩ := List.nodup_cons.mp h
    rcases List.mem_cons.mp hl with rfl | hl
    · exact List.find?_cons_of_pos (beq_self_eq_true _)
    · have hother : k.id ≠ l.id := fun hid => hnew (hid ▸ List.mem_map_of_mem hl)
      rw [List.find?_cons_of_neg (by simpa using hother)]
      exact find?_id hls hl

/-- Of a value that arrives, a listener is given what it listens to. -/
theorem outstanding_flatMap {l : Listener} (hopen : l.isOpen = true) (topic : String)
    (value : Json) :
    ∀ {ls : List Listener}, (ls.map Listener.id).Nodup → l ∈ ls →
      outstanding l.id (ls.flatMap fun k => k.parcels topic value) =
        (l.channels.get? topic).toList.map fun c => (c, value)
  | k :: ls, h, hl => by
    obtain ⟨hnew, hls⟩ := List.nodup_cons.mp h
    rw [List.flatMap_cons, outstanding_append]
    rcases List.mem_cons.mp hl with rfl | hl
    · rw [outstanding_parcels hopen, outstanding_eq_nil, List.append_nil]
      intro d hd hid
      obtain ⟨k, hk, hd⟩ := List.mem_flatMap.mp hd
      exact hnew (List.mem_map.mpr ⟨k, hk, (listener_of_mem_parcels hd).symm.trans hid⟩)
    · rw [outstanding_flatMap hopen topic value hls hl, outstanding_eq_nil, List.nil_append]
      intro d hd hid
      exact hnew (List.mem_map.mpr ⟨l, hl, hid.symm.trans (listener_of_mem_parcels hd)⟩)

/-- Who joins is given what is known, in the order of its channels. -/
theorem outstanding_cached {l : Listener} (hopen : l.isOpen = true) (latest : Assoc String Json)
    {ps : List (String × String)} (hps : ∀ p ∈ ps, l.channels.get? p.1 = some p.2) :
    outstanding l.id
        ((ps.filterMap fun p => (latest.get? p.1).map fun v => (p.1, v)).flatMap
          fun v => l.parcels v.1 v.2) =
      ps.filterMap fun p => (latest.get? p.1).map fun v => (p.2, v) := by
  induction ps with
  | nil => rfl
  | cons p ps ih =>
    obtain ⟨hp, hps⟩ := List.forall_mem_cons.mp hps
    cases hv : latest.get? p.1 with
    | none =>
      rw [List.filterMap_cons_none (by simp [hv]), List.filterMap_cons_none (by simp [hv])]
      exact ih hps
    | some v =>
      rw [List.filterMap_cons_some (by simp [hv]; rfl),
        List.filterMap_cons_some (by simp [hv]; rfl), List.flatMap_cons, outstanding_append,
        outstanding_parcels hopen, hp, ih hps]
      rfl

theorem cachedFor_eq (f : Feed) (l : Listener) :
    f.cachedFor l = l.channels.filterMap fun p => (f.latest.get? p.1).map fun v => (p.1, v) := by
  rw [cachedFor, Listener.topics, Assoc.keys, List.filterMap_map]
  rfl

/-- Nothing is given to a listener that has not joined by then. -/
theorem Meets.fresh {f f' : Feed} {e : Event} (hmeets : Meets f e f') (h : f.Sound) {id : Nat}
    (hid : f'.nextListener ≤ id) : f.nextListener ≤ id ∧ handedTo f id e = [] := by
  cases hmeets with
  | unjoined hl =>
    refine ⟨hid, ?_⟩
    simp only [handedTo, hl]
  | joined hl =>
    have hid : f.nextListener + 1 ≤ id := hid
    have hnew := (newcomer_spec hl).1
    refine ⟨by omega, ?_⟩
    simp only [handedTo, hl]
    exact if_neg (by omega)
  | arrived topic value =>
    refine ⟨hid, ?_⟩
    simp only [handedTo]
    cases hl : f.listeners.find? (fun l => l.id == id) with
    | none => rfl
    | some l =>
      have hlt := h.id_lt l (List.mem_of_find?_eq_some hl)
      have hfound : l.id = id := beq_iff_eq.mp (List.find?_some hl :)
      have hid : f.nextListener ≤ id := hid
      omega
  | _ => exact ⟨hid, rfl⟩

theorem deliveries_fresh (settings : Settings) (past : List Event) {id : Nat}
    (hid : (ofHistory settings past).nextListener ≤ id) : deliveries settings id past = [] := by
  induction past with
  | nil => rfl
  | cons e past ih =>
    obtain ⟨hbefore, hnothing⟩ := (meets_meet _ e).fresh (sound_ofHistory settings past) hid
    rw [deliveries, ih hbefore, hnothing, List.nil_append]

/-! ### Serving -/

/-- **Every event goes on with serving all listeners.** -/
theorem Meets.served {f f' : Feed} {e : Event} (hmeets : Meets f e f') (h : f.Sound)
    (soFar : Nat → List (String × Json))
    (hserved : ∀ l ∈ f.listeners, Served l (soFar l.id) f.pending)
    (hfresh : soFar f.nextListener = []) :
    ∀ l ∈ f'.listeners, Served l (soFar l.id ++ handedTo f l.id e) f'.pending := by
  have hsame : ∀ l ∈ f.listeners, Served l (soFar l.id ++ []) f.pending := fun l hl => by
    rw [List.append_nil]
    exact hserved l hl
  cases hmeets with
  | unjoined hnew =>
    simp only [handedTo, hnew]
    exact hsame
  | @joined edgeId channels n hnew =>
    obtain ⟨hid, hproper, hsnapshot, hsamples⟩ := newcomer_spec hnew
    simp only [handedTo, hnew]
    intro l hl
    rcases List.mem_append.mp hl with hl | hl
    · have hlt := h.id_lt l hl
      have hother : n.id ≠ l.id := by omega
      rw [if_neg hother]
      refine served_append (hserved l hl) (outstanding_eq_nil fun d hd => ?_)
      obtain ⟨v, -, hd⟩ := List.mem_flatMap.mp hd
      rw [listener_of_mem_parcels hd]
      exact hother
    · obtain rfl := List.mem_singleton.mp hl
      -- Nothing can be scheduled yet for an identifier that has not been given.
      have hentry : ∀ p ∈ l.channels, l.channels.get? p.1 = some p.2 := fun p hp =>
        (Assoc.mem_iff_get? hproper.nodup).mp hp
      have hnothing : outstanding l.id f.pending = [] := outstanding_eq_nil fun d hd => by
        have := h.pending_lt d hd
        omega
      rw [if_pos rfl, hid, hfresh]
      refine ⟨[], ?_, hsamples, hsnapshot⟩
      rw [List.nil_append, List.nil_append, outstanding_append, hnothing, cachedFor_eq,
        outstanding_cached hproper.isOpen f.latest hentry, List.nil_append]
  | unknown => exact hsame
  | left => exact fun l hl => hsame l (List.mem_of_mem_filter hl)
  | arrived topic value =>
    intro l hl
    refine served_append (hserved l hl) ?_
    rw [outstanding_flatMap (h.proper l hl).isOpen topic value h.nodup hl, handedTo,
      find?_id h.nodup hl]
  | called => exact hsame
  | connected => exact hsame
  | disconnected => exact hsame
  | idle => exact hsame
  | pushed hpending =>
    refine List.forall_mem_map.mpr fun l hl => ?_
    rw [id_handed]
    exact served_handed (hpending ▸ hsame l hl)

/-- **All listeners are being served** after every history. -/
theorem served_ofHistory (settings : Settings) (past : List Event) :
    ∀ l ∈ (ofHistory settings past).listeners,
      Served l (deliveries settings l.id past) (ofHistory settings past).pending := by
  induction past with
  | nil => nofun
  | cons e past ih =>
    exact (meets_meet _ e).served (sound_ofHistory settings past)
      (fun id => deliveries settings id past) ih (deliveries_fresh settings past (Nat.le_refl _))

/-! ### What is given -/

/-- What an event gives to a listener that has joined before. -/
def given (l : Listener) : Event → List (String × Json)
  | .arrived topic value => (l.channels.get? topic).toList.map fun c => (c, value)
  | _ => []

theorem handedTo_eq {f : Feed} (h : f.Sound) {l : Listener} (hl : l ∈ f.listeners) (e : Event) :
    handedTo f l.id e = given l e := by
  cases e with
  | joined edgeId channels =>
    simp only [handedTo, given]
    cases hnew : f.newcomer? edgeId channels with
    | none => rfl
    | some n =>
      have hid : n.id = f.nextListener := (newcomer_spec hnew).1
      have hlt := h.id_lt l hl
      exact if_neg (by omega)
  | arrived topic value => rw [handedTo, find?_id h.nodup hl, given]
  | _ => rfl

/-- Whoever listens after an event has done so before, or joins with it. -/
theorem Meets.listeners {f f' : Feed} {e : Event} (hmeets : Meets f e f') {l : Listener}
    (hl : l ∈ f'.listeners) :
    (∃ k ∈ f.listeners, k.id = l.id ∧ k.channels = l.channels) ∨
      ∃ edgeId channels, e = .joined edgeId channels ∧ f.newcomer? edgeId channels = some l := by
  cases hmeets with
  | @joined edgeId channels n hnew =>
    rcases List.mem_append.mp hl with hl | hl
    · exact .inl ⟨l, hl, rfl, rfl⟩
    · obtain rfl := List.mem_singleton.mp hl
      exact .inr ⟨edgeId, channels, rfl, hnew⟩
  | left => exact .inl ⟨l, List.mem_of_mem_filter hl, rfl, rfl⟩
  | pushed =>
    obtain ⟨k, hk, rfl⟩ := List.mem_map.mp hl
    exact .inl ⟨k, hk, (id_handed _ k).symm, (channels_handed _ k).symm⟩
  | _ => exact .inl ⟨l, hl, rfl, rfl⟩

/-- A listener that listens to a topic is counted. -/
theorem audience_ne_zero {f : Feed} {l : Listener} (hl : l ∈ f.listeners) {topic c : String}
    (hc : l.channels.get? topic = some c) : f.audience topic ≠ 0 := by
  have htopic : topic ∈ l.topics := Assoc.mem_keys_iff.mpr (by rw [hc]; rfl)
  have hpos : 0 < f.audience topic := List.countP_pos_iff.mpr ⟨l, hl, by simpa using htopic⟩
  omega

/-- What a listener is given when it joins is what is known of its topics. -/
theorem mem_handedTo_joined {f : Feed} {edgeId : String} {channels : List String} {l : Listener}
    (hl : f.newcomer? edgeId channels = some l) {c : String} {value : Json} :
    (c, value) ∈ handedTo f l.id (.joined edgeId channels) ↔
      ∃ topic, l.channels.get? topic = some c ∧ f.latest.get? topic = some value := by
  obtain ⟨-, hproper, -⟩ := newcomer_spec hl
  simp only [handedTo, hl, if_true, List.mem_filterMap, Option.map_eq_some_iff]
  constructor
  · rintro ⟨⟨t, c'⟩, hp, v, hv, heq⟩
    obtain ⟨rfl, rfl⟩ := Prod.mk.inj heq
    exact ⟨t, (Assoc.mem_iff_get? hproper.nodup).mp hp, hv⟩
  · rintro ⟨t, hc, hv⟩
    exact ⟨(t, c), (Assoc.mem_iff_get? hproper.nodup).mpr hc, value, hv, rfl⟩

/-- **A listener is given nothing but values of its topics, that have been heard on them** since
somebody listens to them. -/
theorem heard_of_mem_deliveries {settings : Settings} {past : List Event} {l : Listener}
    (hl : l ∈ (ofHistory settings past).listeners) {c : String} {value : Json}
    (h : (c, value) ∈ deliveries settings l.id past) :
    ∃ topic, l.channels.get? topic = some c ∧ value ∈ heard settings topic past := by
  induction past generalizing l with
  | nil => cases h
  | cons e past ih =>
    have hsound := sound_ofHistory settings past
    rcases (meets_meet _ e).listeners hl with
      ⟨k, hk, hid, hchannels⟩ | ⟨edgeId, channels, rfl, hnew⟩
    -- As the listener stays, so does what has been heard on its topics.
    · rw [deliveries, ← hid, handedTo_eq hsound hk] at h
      rcases List.mem_append.mp h with h | h
      · obtain ⟨topic, hc, hvalue⟩ := ih hk h
        rw [hchannels] at hc
        refine ⟨topic, hc, ?_⟩
        rw [heard, if_neg (audience_ne_zero hl hc)]
        exact List.mem_append_right _ hvalue
      · cases e with
        | arrived topic v =>
          obtain ⟨c', hc, heq⟩ := List.mem_map.mp h
          obtain ⟨rfl, rfl⟩ := Prod.mk.inj heq
          have hc : l.channels.get? topic = some c' := hchannels ▸ Option.mem_toList.mp hc
          refine ⟨topic, hc, ?_⟩
          rw [heard, if_neg (audience_ne_zero hl hc)]
          exact List.mem_append_left _ (by simp [Event.value?])
        | _ => cases h
    · have hid : l.id = (ofHistory settings past).nextListener := (newcomer_spec hnew).1
      rw [deliveries, deliveries_fresh settings past (Nat.le_of_eq hid.symm), List.nil_append,
        mem_handedTo_joined hnew] at h
      obtain ⟨topic, hc, hvalue⟩ := h
      refine ⟨topic, hc, ?_⟩
      rw [latest_eq_heard] at hvalue
      rw [heard, if_neg (audience_ne_zero hl hc)]
      exact List.mem_append_right _ (List.mem_of_mem_head? hvalue)

/-- **The last value that a listener is given for a channel is the latest one of its topic.** -/
theorem last?_deliveries {settings : Settings} {past : List Event} {l : Listener}
    (hl : l ∈ (ofHistory settings past).listeners) {topic c : String}
    (hc : l.channels.get? topic = some c) :
    Assoc.last? (deliveries settings l.id past) c =
      (ofHistory settings past).latest.get? topic := by
  induction past generalizing l with
  | nil => cases hl
  | cons e past ih =>
    have hsound := sound_ofHistory settings past
    have hproper := (sound_ofHistory settings (e :: past)).proper l hl
    rw [ofHistory, (meets_meet _ e).latest hsound (audience_ne_zero hl hc), deliveries,
      Assoc.last?_append]
    rcases (meets_meet _ e).listeners hl with
      ⟨k, hk, hid, hchannels⟩ | ⟨edgeId, channels, rfl, hnew⟩
    · rw [← hid, ih hk (hchannels ▸ hc), handedTo_eq hsound hk]
      refine congrArg (Option.or · _) ?_
      cases e with
      | arrived t v =>
        rw [given, hchannels]
        refine Assoc.last?_eq fun v' => ?_
        by_cases heq : t = topic
        · subst heq
          simp [hc, Event.value?, eq_comm]
        -- No other topic has the same channel.
        · have hother : l.channels.get? t ≠ some c := fun h => heq (hproper.topic_eq h hc)
          simp [Event.value?, heq, hother]
      | _ => rfl
    · have hid : l.id = (ofHistory settings past).nextListener := (newcomer_spec hnew).1
      rw [deliveries_fresh settings past (Nat.le_of_eq hid.symm), Assoc.last?_nil, Option.or_none]
      refine Assoc.last?_eq fun v => ?_
      rw [mem_handedTo_joined hnew]
      constructor
      · rintro ⟨t, hc', hv⟩
        rw [hproper.topic_eq hc hc']
        exact hv
      · exact fun hv => ⟨topic, hc, hv⟩

/-! ### All handed over -/

theorem foldl_deliver_eq {ds : List Delivery} {f : Feed} (h : f.pending = ds) :
    ds.foldl deliver { f with pending := [] } = f.meetAll (List.replicate ds.length .pushed) ∧
      (ds.foldl deliver { f with pending := [] }).pending = [] ∧
      (ds.foldl deliver { f with pending := [] }).latest = f.latest := by
  induction ds generalizing f with
  | nil =>
    have hsame : { f with pending := [] } = f := by rw [← h]
    exact ⟨hsame, rfl, rfl⟩
  | cons d rest ih =>
    have hpush : f.meet .pushed = { f with pending := rest }.deliver d := by rw [meet, push, h]
    obtain ⟨heq, hnone, hlatest⟩ := ih (f := { f with pending := rest }.deliver d) rfl
    rw [List.length_cons, List.replicate_succ, meetAll_cons, hpush]
    exact ⟨heq, hnone, hlatest⟩

/-- All values are handed over by handing them over one by one. -/
theorem settle_eq (f : Feed) :
    f.settle = f.meetAll (List.replicate f.pending.length .pushed) ∧ f.settle.pending = [] ∧
      f.settle.latest = f.latest :=
  foldl_deliver_eq rfl

theorem settle_ofHistory (settings : Settings) (past : List Event) :
    ∃ n, (ofHistory settings past).settle =
      ofHistory settings (List.replicate n .pushed ++ past) := by
  refine ⟨(ofHistory settings past).pending.length, ?_⟩
  rw [(settle_eq _).1, ← ofHistory_append, List.reverse_replicate]

theorem deliveries_pushed (settings : Settings) (id n : Nat) (past : List Event) :
    deliveries settings id (List.replicate n .pushed ++ past) = deliveries settings id past := by
  induction n with
  | zero => rfl
  | succ n ih =>
    rw [List.replicate_succ, List.cons_append, deliveries, ih]
    exact List.append_nil _

/-- **Once all is handed over, a listener has a sample for each value it is to get**, and its
snapshot is what is known of its topics. -/
theorem settled_ofHistory {settings : Settings} {past : List Event} {l : Listener}
    (hl : l ∈ (ofHistory settings past).settle.listeners) :
    l.samples = snapshots (deliveries settings l.id past) ∧
      (∀ {topic c : String}, l.channels.get? topic = some c →
        l.snapshot.get? c = (ofHistory settings past).latest.get? topic) ∧
      ∀ {c : String} {value : Json}, l.snapshot.get? c = some value →
        ∃ topic, l.channels.get? topic = some c := by
  obtain ⟨n, hsettle⟩ := settle_ofHistory settings past
  obtain ⟨-, hnone, hlatest⟩ := settle_eq (ofHistory settings past)
  rw [hsettle] at hl hnone hlatest
  obtain ⟨handled, hvalues, hsamples, hsnapshot⟩ := served_ofHistory settings _ l hl
  rw [hnone, outstanding_eq_nil (fun d hd => absurd hd List.not_mem_nil),
    List.append_nil] at hvalues
  subst hvalues
  refine ⟨by rw [hsamples, deliveries_pushed], fun hc => ?_, fun hvalue => ?_⟩
  · rw [hsnapshot, Assoc.get?_ofList, last?_deliveries hl hc, hlatest]
  · rw [hsnapshot, Assoc.get?_ofList] at hvalue
    obtain ⟨topic, hc, -⟩ := heard_of_mem_deliveries hl (Assoc.mem_of_last? hvalue)
    exact ⟨topic, hc⟩

/-- **Every listener sees the latest values**, after every run of acts. What it is to get are values
that have been heard on its topics, and it has been handed the first of them, one sample for each
with the last value of every channel so far; the others are scheduled. Once all is handed over, its
snapshot has what is known of its topics and nothing else, so two listeners see the same of a topic
that they share. -/
theorem samples_cumulative (settings : Settings) (acts : List Act) :
    (∀ l ∈ (run settings acts).listeners,
      Served l (deliveries settings l.id (history settings acts)) (run settings acts).pending ∧
      ∀ c value, (c, value) ∈ deliveries settings l.id (history settings acts) →
        ∃ topic, l.channels.get? topic = some c ∧
          value ∈ heard settings topic (history settings acts)) ∧
    ∀ l ∈ (run settings acts).settle.listeners,
      l.samples = snapshots (deliveries settings l.id (history settings acts)) ∧
      (∀ c value, l.snapshot.get? c = some value ↔
        ∃ topic, l.channels.get? topic = some c ∧
          (run settings acts).latest.get? topic = some value) ∧
      ∀ l' ∈ (run settings acts).settle.listeners, ∀ topic c c',
        l.channels.get? topic = some c → l'.channels.get? topic = some c' →
          l.snapshot.get? c = l'.snapshot.get? c' := by
  rw [run_eq]
  refine ⟨fun l hl => ⟨served_ofHistory settings _ l hl, fun c value h => ?_⟩, fun l hl => ?_⟩
  · exact heard_of_mem_deliveries hl h
  · obtain ⟨hsamples, hlatest, hchannel⟩ := settled_ofHistory hl
    refine ⟨hsamples, fun c value => ⟨fun hvalue => ?_, ?_⟩, fun l' hl' topic c c' hc hc' => ?_⟩
    · obtain ⟨topic, hc⟩ := hchannel hvalue
      exact ⟨topic, hc, (hlatest hc).symm.trans hvalue⟩
    · rintro ⟨topic, hc, hvalue⟩
      exact (hlatest hc).trans hvalue
    · obtain ⟨-, hlatest', -⟩ := settled_ofHistory hl'
      exact (hlatest hc).trans (hlatest' hc').symm

/-- A listener gets a value, and another one that comes later shares its topic. -/
def comingLate : List Act :=
  [.attach quiet "edge0" ["ess0/Soc"], .receive ⟨"edge/edge0/ess0/Soc", [0x37, 0x38]⟩,
    .attach quiet "edge0" ["ess0/Power", "ess0/Soc"]]

/-- The one that came later starts with what the other one knows. -/
theorem samples_cumulative_comingLate :
    ∃ l ∈ (run {} comingLate).settle.listeners, ∃ l' ∈ (run {} comingLate).settle.listeners,
      l.id = 0 ∧ l'.id = 1 ∧ l.snapshot.get? "ess0/Soc" = l'.snapshot.get? "ess0/Soc" ∧
        l'.samples = snapshots (deliveries {} 1 (history {} comingLate)) := by
  have hlisteners : (run {} comingLate).settle.listeners =
      [{ id := 0, channels := [("edge/edge0/ess0/Soc", "ess0/Soc")],
         snapshot := [("ess0/Soc", .int 78)], samples := [[("ess0/Soc", .int 78)]] },
       { id := 1,
         channels := [("edge/edge0/ess0/Power", "ess0/Power"), ("edge/edge0/ess0/Soc", "ess0/Soc")],
         snapshot := [("ess0/Soc", .int 78)], samples := [[("ess0/Soc", .int 78)]] }] := by
    rfl
  obtain ⟨-, hsettled⟩ := samples_cumulative {} comingLate
  rw [hlisteners] at hsettled ⊢
  refine ⟨_, List.mem_cons_self .., _, List.mem_cons_of_mem _ (List.mem_singleton_self _), rfl, rfl,
    ?_, ?_⟩
  · exact (hsettled _ (List.mem_cons_self ..)).2.2 _
      (List.mem_cons_of_mem _ (List.mem_singleton_self _)) "edge/edge0/ess0/Soc" _ _ rfl rfl
  · exact (hsettled _ (List.mem_cons_of_mem _ (List.mem_singleton_self _))).1

end Feed

end Commissioning
