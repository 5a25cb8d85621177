import Commissioning.Proofs.Assistant.Traffic

/-!
# Closed sessions

A session is closed when it is removed, or when the wizard moves on from its last view. A closed
session stays closed and is not finished again, unless a submission of it waits for the gateway
at that moment (`Commissioning.Traffic.stays_closed_iff`).

The condition is exact. A submission that waits has its session in hand, at the view for the
serial numbers, and writes it back when the gateway answers, whether or not there is still a
session. The view for the serial numbers is the last one but one, and the last view has no
fields to fill in, so one more move then finishes the session, for the second time if it was
finished before.
-/

namespace Commissioning

/-! ### Around the last view -/

namespace Session

variable {s : Session}

/-- There is nothing to fill in at the end. -/
theorem completed_of_completion (h : s.currentView = .ok (some .completion)) :
    s.completed = .ok () := by
  rw [completed, h]
  rfl

/-- At the end the wizard can only move on, and this finishes the session. -/
theorem finishes_advance (h : s.currentView = .ok (some .completion))
    (hlast : s.viewIndex + 1 = s.viewCount) :
    finishes (Operation.advance.onSession s).1 = true := by
  have hforward : s.forward.1 = Navigator.finishedAt s := by
    rw [forward, if_neg (by omega)]
  rw [Operation.onSession, completed_of_completion h]
  show s.forward.1.finished = true
  rw [hforward]
  rfl

end Session

/-! ### Acts that close -/

namespace Act

/-- An act that closes a session finds something on record and leaves no session. -/
theorem session_of_closes {fallback : SerialNumberDefaults} {id : String} {slot : Slot} {act : Act}
    (h : closes (act.onSlot fallback id slot).1 = true) :
    (act.onSlot fallback id slot).2.session = none ∧ slot ≠ {} := by
  obtain ⟨session, waiting⟩ := slot
  cases act with
  | create edge =>
    change closes (Operation.replaced {} (Session.created edge)).1 = true at h
    rw [closes_replaced] at h
    cases h
  | operate o =>
    rcases session with _ | s
    · cases h
    · refine ⟨?_, by rintro ⟨⟩⟩
      have heffect := o.effect s
      change closes (o.onSession s).1 = true at h
      show (o.onSession s).2 = none
      generalize o.onSession s = after at heffect h
      cases heffect with
      | refused e => cases h
      | kept _ hopen _ =>
        rw [hopen] at h
        cases h
      | closed _ => rfl
  | submit counts towers =>
    rcases waiting with _ | p
    · rcases session with _ | s
      · cases h
      · rcases hp : s.submission id fallback counts towers with e | p
        · simp only [onSlot, hp] at h
          cases h
        · simp only [onSlot, hp] at h
          cases h
    · cases h
  | conclude answer =>
    rcases waiting with _ | p
    · cases h
    · refine ⟨?_, by rintro ⟨⟩⟩
      rcases hconcluded : p.concluded answer with e | ⟨result, record⟩
      · simp only [onSlot, hconcluded] at h
        cases h
      · simp only [onSlot, hconcluded] at h ⊢
        have heffect := Submission.effect hconcluded
        cases heffect with
        | kept _ hopen _ =>
          rw [hopen] at h
          cases h
        | closed _ => rfl

end Act

namespace Traffic

/-! ### The gateway answers late -/

section Late

variable (fallback : SerialNumberDefaults) {l : Ledger} {id : String} {p : Submission}

/-- The gateway archives the protocol of a session. -/
def archived (id : String) : Turn := ⟨id, .conclude (.ok "")⟩

/-- The wizard moves on. -/
def moveOn (id : String) : Turn := ⟨id, .operate .advance⟩

theorem proper_archived {turns : List Turn} (h : Proper turns) (id : String) :
    Proper (turns ++ [archived id]) :=
  h.extend (by simp [archived, Act.InBounds]) rfl

theorem proper_archived_moveOn {turns : List Turn} (h : Proper turns) (id : String) :
    Proper (turns ++ [archived id, moveOn id]) :=
  h.extend (by simp [archived, moveOn, Act.InBounds, Operation.InBounds]) rfl

theorem orderly_archived (id : String) : ∀ turn ∈ [archived id], turn.act.Orderly := by
  simp [archived, Act.Orderly]

theorem orderly_archived_moveOn (id : String) :
    ∀ turn ∈ [archived id, moveOn id], turn.act.Orderly := by
  simp [archived, moveOn, Act.Orderly]

/-- After a late answer there is a session again. -/
theorem step_archived (hwaiting : (l id).waiting = some p) (hp : p.IsReady id) :
    (l.step fallback (archived id)).2 id =
      ⟨some ((p.session.withProtocolId "").movedTo (p.session.viewIndex + 1)), none⟩ := by
  have horderly : (Act.conclude (.ok "")).Orderly := trivial
  exact Ledger.step_conclude fallback hwaiting hp horderly

/-- After a late answer one move finishes the session. -/
theorem finishes_archived (hwaiting : (l id).waiting = some p) (hp : p.IsReady id) :
    ∃ event ∈ (l.run fallback [archived id, moveOn id]).1, event.turn.id = id ∧
      finishes event.outcome = true := by
  refine ⟨⟨moveOn id, ((l.step fallback (archived id)).2.step fallback (moveOn id)).1⟩,
    List.mem_cons_of_mem _ (List.mem_singleton_self _), rfl, ?_⟩
  show finishes ((moveOn id).act.onSlot fallback id ((l.step fallback (archived id)).2 id)).1 = true
  rw [step_archived fallback hwaiting hp]
  obtain ⟨hlast, hview⟩ := hp.sound.viewIndex_of_serialNumbers hp.view
  have hnonneg := hp.sound.index_nonneg
  have hsound : ((p.session.withProtocolId "").movedTo (p.session.viewIndex + 1)).Sound := by
    refine (hp.sound.withProtocolId "").movedTo (by omega) ?_
    show p.session.viewIndex + 1 < p.session.viewCount
    omega
  refine Session.finishes_advance (hsound.currentView.trans (congrArg _ hview)) ?_
  show p.session.viewIndex + 1 + 1 = p.session.viewCount
  omega

end Late

section Start

variable (settings : Settings) (gateway : Gateway) (feed : Option Feed) (kind : StoreKind)

/-- What the ledger has on record where a session has just been closed. -/
theorem session_of_closes {before : List Turn} {turn : Turn} (hproper : Proper (before ++ [turn]))
    (hcloses : closes (((start settings gateway feed kind).run before).2.step turn).1 = true) :
    ((Ledger.empty.run settings.fallbackDefaults (before ++ [turn])).2 turn.id).session = none ∧
      turn.id ∈ creations (before ++ [turn]) := by
  rw [(run_step_follows settings gateway feed kind hproper).1] at hcloses
  obtain ⟨hsession, hslot⟩ := Act.session_of_closes hcloses
  rw [Ledger.run_append]
  constructor
  · show (((Ledger.empty.run settings.fallbackDefaults before).2.step settings.fallbackDefaults
      turn).2 turn.id).session = none
    rw [Ledger.step_self]
    exact hsession
  · rw [creations_append]
    exact List.mem_append_left _ (Ledger.mem_creations_of_ne hslot)

/-- **What is gone stays gone**, and is not finished again, if no submission waits: nothing is left
on record, and the identifier is not used again. -/
theorem stays_gone {turns later : List Turn} {id : String} (hproper : Proper (turns ++ later))
    (hcreated : id ∈ creations turns)
    (hgone : ((Ledger.empty.run settings.fallbackDefaults turns).2 id).session = none)
    (hwaiting : ((start settings gateway feed kind).run turns).2.waiting.get? id = none) :
    (((start settings gateway feed kind).run turns).2.run later).2.assistant.store.has id = false ∧
      ∀ event ∈ (((start settings gateway feed kind).run turns).2.run later).1,
        event.turn.id = id → finishes event.outcome = false := by
  obtain ⟨-, hfollows, -⟩ := run_follows settings gateway feed kind hproper.left
  obtain ⟨hevents, hlater, -⟩ := run_follows_later settings gateway feed kind hproper
  have hempty : (Ledger.empty.run settings.fallbackDefaults turns).2 id = {} := by
    rw [← hgone, ← hwaiting, hfollows.waiting id]
  obtain ⟨hslot, hopen⟩ := Ledger.run_empty hempty (hproper.not_mem_later hcreated)
  constructor
  · rw [(hlater.held id).has, hslot]
    rfl
  · rw [hevents]
    exact fun event hevent hid => finishes_of_closes_eq_false (hopen event hevent hid)

/-- **A session for which a submission waits comes back**: the gateway need only answer. -/
theorem comes_back {turns : List Turn} {id : String} {p : Submission} (hproper : Proper turns)
    (hwaiting : ((start settings gateway feed kind).run turns).2.waiting.get? id = some p) :
    (((start settings gateway feed kind).run turns).2.run [archived id]).2.assistant.store.has id =
      true := by
  obtain ⟨-, hfollows, -⟩ := run_follows settings gateway feed kind hproper
  rw [hfollows.waiting id] at hwaiting
  obtain ⟨-, hlater, -⟩ := run_follows_later settings gateway feed kind
    (proper_archived hproper id)
  rw [(hlater.held id).has]
  exact congrArg (fun slot => slot.session.isSome)
    (step_archived settings.fallbackDefaults hwaiting (hfollows.ready id p hwaiting))

/-- **A session for which a submission waits can be finished**, whatever has become of it: the
gateway answers, and the wizard moves on. -/
theorem can_be_finished {turns : List Turn} {id : String} {p : Submission}
    (hproper : Proper turns)
    (hwaiting : ((start settings gateway feed kind).run turns).2.waiting.get? id = some p) :
    ∃ event ∈ (((start settings gateway feed kind).run turns).2.run
        [archived id, moveOn id]).1,
      event.turn.id = id ∧ finishes event.outcome = true := by
  obtain ⟨-, hfollows, -⟩ := run_follows settings gateway feed kind hproper
  rw [hfollows.waiting id] at hwaiting
  obtain ⟨hevents, -, -⟩ := run_follows_later settings gateway feed kind
    (proper_archived_moveOn hproper id)
  rw [hevents]
  exact finishes_archived settings.fallbackDefaults hwaiting (hfollows.ready id p hwaiting)

/-- **A closed session stays closed** and is not finished again, whatever follows, if and only if
no submission of it waits for the gateway when it is closed. The number of finished sessions is
that of the turns that finish one. -/
theorem stays_closed_iff {before : List Turn} {turn : Turn} (hproper : Proper (before ++ [turn]))
    (hcloses : closes (((start settings gateway feed kind).run before).2.step turn).1 = true) :
    let t := ((start settings gateway feed kind).run (before ++ [turn])).2
    (t.waiting.get? turn.id = none ↔
      ∀ later, Proper (before ++ [turn] ++ later) → (∀ next ∈ later, next.act.Orderly) →
        (t.run later).2.assistant.store.has turn.id = false) ∧
    (t.waiting.get? turn.id = none ↔
      ∀ later, Proper (before ++ [turn] ++ later) → (∀ next ∈ later, next.act.Orderly) →
        ∀ event ∈ (t.run later).1, event.turn.id = turn.id → finishes event.outcome = false) ∧
    ∀ later, Proper (before ++ [turn] ++ later) →
      (t.run later).2.assistant.finishedCount =
        t.assistant.finishedCount + finishCount (t.run later).1 := by
  intro t
  obtain ⟨hgone, hcreated⟩ := session_of_closes settings gateway feed kind hproper hcloses
  have hclosed : t.waiting.get? turn.id = none → ∀ later, Proper (before ++ [turn] ++ later) → _ :=
    fun hnone later hlater =>
      stays_gone settings gateway feed kind hlater hcreated hgone hnone
  -- In the other direction a submission that waits is brought to its end, and then the wizard
  -- moves on.
  refine ⟨⟨fun hnone later hlater _ => (hclosed hnone later hlater).1, fun h => ?_⟩,
    ⟨fun hnone later hlater _ => (hclosed hnone later hlater).2, fun h => ?_⟩, ?_⟩
  · rcases hwaiting : t.waiting.get? turn.id with _ | p
    · rfl
    · have hback := comes_back settings gateway feed kind hproper hwaiting
      have hgone := h _ (proper_archived hproper turn.id) (orderly_archived turn.id)
      rw [hback] at hgone
      cases hgone
  · rcases hwaiting : t.waiting.get? turn.id with _ | p
    · rfl
    · obtain ⟨event, hevent, hid, hfinishes⟩ :=
        can_be_finished settings gateway feed kind hproper hwaiting
      have hnot := h _ (proper_archived_moveOn hproper turn.id)
        (orderly_archived_moveOn turn.id) event hevent hid
      rw [hfinishes] at hnot
      cases hnot
  · intro later hlater
    obtain ⟨hevents, -, hcount⟩ := run_follows_later settings gateway feed kind hlater
    rw [hcount, hevents]

end Start

/-- A session is removed while its serial numbers are submitted, and does not stay removed. -/
theorem stays_closed_iff_removed :
    ¬∀ later, Proper (submissionTurns ++ [⟨"a", .operate .abandon⟩] ++ later) →
      (∀ next ∈ later, next.act.Orderly) →
      (((start {} default none .memory).run (submissionTurns ++
        [⟨"a", .operate .abandon⟩])).2.run later).2.assistant.store.has "a" = false := by
  have hproper : Proper (submissionTurns ++ [⟨"a", .operate .abandon⟩]) :=
    proper_submissionTurns.extend (by simp [Act.InBounds, Operation.InBounds]) rfl
  obtain ⟨houtcome, -⟩ := run_step_follows {} default none .memory hproper
  have hcloses : closes (((start {} default none .memory).run submissionTurns).2.step
      ⟨"a", .operate .abandon⟩).1 = true := by
    rw [houtcome]
    decide +kernel
  obtain ⟨-, hfollows, -⟩ := run_follows {} default none .memory hproper
  have hwaiting : (((start {} default none .memory).run (submissionTurns ++
      [⟨"a", .operate .abandon⟩])).2.waiting.get? "a").isSome = true := by
    rw [hfollows.waiting "a"]
    decide +kernel
  intro h
  rw [(stays_closed_iff {} default none .memory hproper hcloses).1.mpr h] at hwaiting
  cases hwaiting

end Traffic

end Commissioning
