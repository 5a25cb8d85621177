import Commissioning.Proofs.Assistant.Traffic

/-!
# Sessions are read as they were left

The assistant writes a session as texts after every operation and reads it back before the next
one. `Commissioning.Traffic.run_faithful` says that this cannot be told from keeping the sessions
themselves. Take any turns on any sessions in any order, as long as no act overlaps a submission
of its session (`Commissioning.Traffic.Apart`) and the gateway fails in an orderly way only. At
every moment of the run

* the answers so far are those of the ledger;
* there are entries for the sessions that were created and not closed, and for no others;
* the entries read as the session that the last successful operation gave back, with nothing
  replaced by a default, and there is a view at its index;
* a system that has been chosen stays until the session is closed.

A creation counts here also if it fails, and it does fail where a text of the device is torn. Then
there are entries all the same, and until an operation has given the session back they read as a
fresh one without a device (`Commissioning.IsLeft`).
-/

namespace Commissioning

/-- **The store reads as a session**: nothing in its entries is replaced by a default, and there
is a view at its index. -/
structure Assistant.ReadsAs (a : Assistant) (id : String) (s : Session) : Prop where
  intact : Session.Intact (a.store.entries id)
  load : Assistant.load id a = .ok s a
  index_nonneg : 0 ≤ s.viewIndex
  index_lt : s.viewIndex < s.viewCount

namespace Traffic

/-- **No turn overlaps a submission of its session**: what comes while one waits is the answer
to it. -/
def Apart (t : Traffic) (turns : List Turn) : Prop :=
  ∀ before turn after, turns = before ++ turn :: after →
    (t.run before).2.waiting.get? turn.id ≠ none → turn.act.IsConclusion

variable {t : Traffic} {l : Ledger} {id : String} {s : Session}

theorem Apart.left {turns turns' : List Turn} (h : t.Apart (turns ++ turns')) : t.Apart turns := by
  rintro before turn after rfl
  exact h before turn (after ++ turns') (by rw [List.append_assoc, List.cons_append])

theorem Follows.readsAs (h : t.Follows l) (hs : (l id).session = some s) :
    t.assistant.ReadsAs id s := by
  have hheld := h.held id
  rw [hs] at hheld
  obtain ⟨hsound, hkept⟩ := hheld
  exact ⟨Session.intact_of_kept hsound hkept, h.load hs, hsound.index_nonneg, hsound.index_lt⟩

section Start

variable (settings : Settings) (gateway : Gateway) (feed : Option Feed) (kind : StoreKind)

/-- Whether turns are apart can be told from the ledger. -/
theorem apart_start_iff {turns : List Turn} (hproper : Proper turns) :
    (start settings gateway feed kind).Apart turns ↔
      Ledger.empty.Apart settings.fallbackDefaults turns := by
  have hwaiting : ∀ before turn after, turns = before ++ turn :: after →
      ((start settings gateway feed kind).run before).2.waiting.get? turn.id =
        ((Ledger.empty.run settings.fallbackDefaults before).2 turn.id).waiting := by
    rintro before turn after rfl
    obtain ⟨-, hfollows, -⟩ := run_follows settings gateway feed kind hproper.left
    exact hfollows.waiting turn.id
  constructor
  · intro h before turn after hturns hsome
    refine h before turn after hturns ?_
    rwa [hwaiting before turn after hturns]
  · intro h before turn after hturns hsome
    refine h before turn after hturns ?_
    rwa [← hwaiting before turn after hturns]

/-- What the ledger has on record is what the events tell. -/
theorem recorded_of_apart {turns : List Turn} (hproper : Proper turns)
    (hapart : (start settings gateway feed kind).Apart turns)
    (horderly : ∀ turn ∈ turns, turn.act.Orderly) (id : String) :
    Recorded id (Ledger.empty.run settings.fallbackDefaults turns).1
      ((Ledger.empty.run settings.fallbackDefaults turns).2 id) := by
  have hledger := (apart_start_iff settings gateway feed kind hproper).mp hapart
  have hnone : ∀ id ∈ creations turns, ¬IsCreated id [] := by
    rintro id - ⟨event, ⟨⟩, -⟩
  exact Ledger.run_recorded turns Recorded.nil hproper.fresh hnone hledger horderly id

/-- A system that has been chosen is the one that is loaded later on. -/
theorem system_of_load {turns later : List Turn} (hproper : Proper (turns ++ later))
    (hrecorded : Recorded id (Ledger.empty.run settings.fallbackDefaults turns).1
      ((Ledger.empty.run settings.fallbackDefaults turns).2 id))
    (hs : ((Ledger.empty.run settings.fallbackDefaults turns).2 id).session = some s)
    (hsystem : s.system.isGeneral = false) {s' : Session} {a : Assistant}
    (hload : Assistant.load id
      (((start settings gateway feed kind).run turns).2.run later).2.assistant = .ok s' a) :
    s'.system = s.system := by
  obtain ⟨-, hlater, -⟩ := run_follows_later settings gateway feed kind hproper
  -- The session is created before, so not again later on.
  have hfresh : id ∉ creations later := by
    refine hproper.not_mem_later ?_
    rw [← isCreated_taken_iff (Ledger.step settings.fallbackDefaults) turns Ledger.empty]
    exact (hrecorded.session.mp (by rw [hs]; rintro ⟨⟩)).1
  have hstays : ((Ledger.empty.run settings.fallbackDefaults turns).2 id).StaysWith s.system := by
    refine ⟨fun s' hs' => ?_, fun p hp => ?_⟩
    · rw [hs] at hs'
      rw [← Option.some.inj hs']
    · have hsame := hrecorded.submitted p hp
      rw [hs] at hsame
      rw [← Option.some.inj hsame]
  exact (Ledger.run_staysWith hsystem hstays hfresh).session s' (hlater.session_of_load hload)

/-- **Sessions are read as they were left**, at every moment of a run. -/
theorem run_faithful {turns later : List Turn} (hproper : Proper (turns ++ later))
    (hapart : (start settings gateway feed kind).Apart (turns ++ later))
    (horderly : ∀ turn ∈ turns ++ later, turn.act.Orderly) :
    let now := (start settings gateway feed kind).run turns
    let ledger := Ledger.empty.run settings.fallbackDefaults turns
    now.1 = ledger.1 ∧
      (∀ id, now.2.assistant.store.has id = true ↔ IsCreated id now.1 ∧ ¬IsClosed id now.1) ∧
      (∀ id, now.2.assistant.store.has id = true ↔ (ledger.2 id).session ≠ none) ∧
      (∀ id, IsHalfCreated id now.1 ↔ ∃ turn ∈ turns, turn.IsTornCreation id) ∧
      ∀ id, ∀ s ∈ (ledger.2 id).session,
        now.2.assistant.ReadsAs id s ∧
        (now.2.waiting.get? id = none → IsLeft id now.1 s) ∧
        (s.system.isGeneral = false →
          ∀ s' a, Assistant.load id (now.2.run later).2.assistant = .ok s' a →
            s'.system = s.system) := by
  intro now ledger
  obtain ⟨hevents, hfollows, -⟩ := run_follows settings gateway feed kind hproper.left
  have hrecorded := recorded_of_apart settings gateway feed kind hproper.left hapart.left
    fun turn hturn => horderly turn (List.mem_append_left _ hturn)
  have hhas : ∀ id, now.2.assistant.store.has id = true ↔ (ledger.2 id).session ≠ none := by
    intro id
    rw [(hfollows.held id).has, Option.isSome_iff_ne_none]
  refine ⟨hevents, fun id => ?_, hhas, fun id => ?_,
    fun id s hs => ⟨hfollows.readsAs hs, fun hwaiting => ?_, ?_⟩⟩
  · rw [hhas, show now.1 = ledger.1 from hevents]
    exact (hrecorded id).session
  · rw [show now.1 = ledger.1 from hevents]
    exact Ledger.isHalfCreated_run_iff turns Ledger.empty
  · rw [hfollows.waiting] at hwaiting
    rw [show now.1 = ledger.1 from hevents]
    exact (hrecorded id).left hwaiting s hs
  · intro hsystem s' a hload
    exact system_of_load settings gateway feed kind hproper (hrecorded id) hs hsystem hload

end Start

/-- The serial numbers of one session are archived while another one is created. -/
def archivalTurns : List Turn :=
  submissionTurns ++ [⟨"b", .create none⟩, ⟨"a", .conclude (.ok "P1")⟩]

/-- A session whose serial numbers are archived is at its last view. -/
theorem run_faithful_archived :
    ∃ s, ((start {} default none .memory).run archivalTurns).2.assistant.ReadsAs "a" s ∧
      IsLeft "a" ((start {} default none .memory).run archivalTurns).1 s ∧
      s.viewIndex = 13 := by
  have hproper : Proper (archivalTurns ++ [⟨"a", .operate .advance⟩]) := by
    refine ⟨?_, by decide⟩
    rw [archivalTurns, List.append_assoc, List.forall_mem_append]
    exact ⟨proper_submissionTurns.inBounds, by simp [Act.InBounds, Operation.InBounds]⟩
  have hledger : Ledger.empty.Apart ({} : Settings).fallbackDefaults
      (archivalTurns ++ [⟨"a", .operate .advance⟩]) := by decide +kernel
  have horderly : ∀ turn ∈ archivalTurns ++ [⟨"a", .operate .advance⟩], turn.act.Orderly := by
    simp [archivalTurns, submissionTurns, approachTurns, Act.Orderly]
  obtain ⟨-, -, -, -, hreads⟩ := run_faithful {} default none .memory hproper
    ((apart_start_iff {} default none .memory hproper).mpr hledger) horderly
  obtain ⟨-, hfollows, -⟩ := run_follows {} default none .memory hproper.left
  have hrecord : ((Ledger.empty.run ({} : Settings).fallbackDefaults archivalTurns).2
      "a").session.map Session.viewIndex = some 13 := by decide +kernel
  obtain ⟨s, hs, hindex⟩ := Option.map_eq_some_iff.mp hrecord
  obtain ⟨hreadsAs, hleft, -⟩ := hreads "a" s hs
  have hdone : ((Ledger.empty.run ({} : Settings).fallbackDefaults archivalTurns).2
      "a").waiting = none := by decide +kernel
  exact ⟨s, hreadsAs, hleft ((hfollows.waiting "a").trans hdone), hindex⟩

/-- A session is to be created for a device with half of a pair in its comment. -/
def halfCreation : List Turn := [⟨"a", .create (some Edge.halfCommented)⟩]

/-- **Not every session that is there has been given back**: the creation that fails leaves one. -/
theorem not_always_given_back :
    ¬∀ turns : List Turn, Proper turns → (start {} default none .memory).Apart turns →
      (∀ turn ∈ turns, turn.act.Orderly) →
        let now := (start {} default none .memory).run turns
        ∀ id s a, Assistant.load id now.2.assistant = .ok s a →
          now.2.waiting.get? id = none → lastReturned? id now.1 = some s := by
  intro h
  have hproper : Proper halfCreation := by
    refine ⟨?_, by decide⟩
    rintro turn hturn
    obtain rfl := List.mem_singleton.mp hturn
    rintro e ⟨⟩
    exact ⟨by decide, by decide⟩
  have hledger : Ledger.empty.Apart ({} : Settings).fallbackDefaults halfCreation := by
    decide +kernel
  have horderly : ∀ turn ∈ halfCreation, turn.act.Orderly := by
    rintro turn hturn
    obtain rfl := List.mem_singleton.mp hturn
    trivial
  obtain ⟨hevents, hfollows, -⟩ := run_follows {} default none .memory hproper
  have hrecord : ((Ledger.empty.run ({} : Settings).fallbackDefaults halfCreation).2
      "a").session = some {} := by decide +kernel
  have hlast := h halfCreation hproper
    ((apart_start_iff {} default none .memory hproper).mpr hledger) horderly "a" {} _
    (hfollows.load hrecord)
    ((hfollows.waiting "a").trans (by decide +kernel))
  rw [hevents] at hlast
  have hnone : lastReturned? "a"
      (Ledger.empty.run ({} : Settings).fallbackDefaults halfCreation).1 = none := by
    decide +kernel
  rw [hnone] at hlast
  cases hlast

end Traffic

end Commissioning
