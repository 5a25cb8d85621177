import Commissioning.Proofs.Assistant.Confined

/-!
# Sessions do not meet

Whoever works on one session learns nothing of the others and is not disturbed by them. The
assistant is asked about any sessions in any order (`Commissioning.Reception.Turn`): to create them,
to do something with them, to submit serial numbers, to find something out. Two of these take a
while. A submission waits for the gateway and an inquiry for the device, and other turns are taken
in the meantime, about the same session or about others. So both are cut in two halves, an inquiry
at the question that it puts to the device (`Commissioning.Inquiry.answer_eq`), and what the gateway
and the device answer is part of the turns.

**A session has nothing to do with the turns about other sessions**
(`Commissioning.Reception.isolated`): if they are left out, every turn about the session has the
same answer and leaves the same entries. Only the counters of the assistant, which belong to no
session, tell of the others.

This comes from two properties of a single turn (`Commissioning.Isolated`): it leaves the share of
every other session alone, and what it does to its own session follows from the share of that
session. Operations have them by being confined (`Commissioning.Assistant.Confined`), and from one
turn they carry over to a run by induction.
-/

namespace Commissioning

/-- **A step is about one identifier alone**, where every identifier has its share in the state: it
leaves the shares of the others alone and sees no other than its own. The states are those that an
invariant allows, which the step preserves. -/
structure Isolated {σ α γ : Type} (share : String → σ → γ) (inv : σ → Prop) (id : String)
    (step : σ → α × σ) : Prop where
  keeps : ∀ s, inv s → inv (step s).2
  spares : ∀ s, inv s → ∀ other, other ≠ id → share other (step s).2 = share other s
  sees : ∀ s t, inv s → inv t → share id s = share id t →
    (step s).1 = (step t).1 ∧ share id (step s).2 = share id (step t).2

/-! ### Turns without inquiries -/

namespace Traffic

open Assistant

/-- The share of a session: that in the assistant, and the submission that waits. -/
def share (id : String) (t : Traffic) : Assistant.Share × Option Submission :=
  (Assistant.share id t.assistant, t.waiting.get? id)

/-- A submission waits under the identifier of its session. -/
def Settled (t : Traffic) : Prop := ∀ id, ∀ p ∈ t.waiting.get? id, p.id = id

variable {t : Traffic} {id : String}

theorem isolated_serve {m : AssistantM Reply} (hm : Confined id m) :
    Isolated share Settled id fun t => t.serve m := by
  have hserve : ∀ t : Traffic, (t.serve m).2 = { t with assistant := after m t.assistant } := by
    intro t
    unfold serve after
    rcases m t.assistant with ⟨reply, a⟩ | ⟨e, a⟩ <;> rfl
  constructor
  case keeps =>
    intro t ht
    show Settled (t.serve m).2
    rw [hserve]
    exact ht
  case spares =>
    intro t _ other hother
    show share other (t.serve m).2 = share other t
    rw [hserve]
    exact congrArg (·, t.waiting.get? other) (hm.spares other hother t.assistant)
  case sees =>
    intro t u _ _ h
    obtain ⟨hassistant, hwaiting⟩ := Prod.mk.inj h
    unfold serve
    obtain ⟨reply, a, b, ha, hb, h'⟩ | ⟨e, a, b, ha, hb, h'⟩ := (hm.sees _ _ hassistant).cases
    · rw [ha, hb]
      exact ⟨rfl, Prod.ext h' hwaiting⟩
    · rw [ha, hb]
      exact ⟨rfl, Prod.ext h' hwaiting⟩

theorem isolated_submit (id : String) (counts : Members) (towers : TowerValues) :
    Isolated share Settled id fun t => t.submit id counts towers := by
  have hbegin := confined_beginSubmission id counts towers
  constructor
  case keeps =>
    intro t ht
    unfold submit
    rcases hresult : beginSubmission id counts towers t.assistant with ⟨p, a⟩ | ⟨e, a⟩
    · intro other q hq
      rw [Assoc.get?_put] at hq
      split at hq
      · next hid =>
        obtain rfl := Option.some.inj hq
        rw [← hid]
        exact (beginSubmission_frame hresult).1
      · exact ht other q hq
    · exact ht
  case spares =>
    intro t _ other hother
    unfold submit
    rcases hresult : beginSubmission id counts towers t.assistant with ⟨p, a⟩ | ⟨e, a⟩
    · refine Prod.ext (hbegin.share_of_ok hother hresult) ?_
      show (t.waiting.put id p).get? other = t.waiting.get? other
      rw [Assoc.get?_put, if_neg (Ne.symm hother)]
    · exact Prod.ext (hbegin.share_of_error hother hresult) rfl
  case sees =>
    intro t u _ _ h
    obtain ⟨hassistant, hwaiting⟩ := Prod.mk.inj h
    unfold submit
    obtain ⟨p, a, b, ha, hb, h'⟩ | ⟨e, a, b, ha, hb, h'⟩ := (hbegin.sees _ _ hassistant).cases
    · rw [ha, hb]
      refine ⟨rfl, Prod.ext h' ?_⟩
      show (t.waiting.put id p).get? id = (u.waiting.put id p).get? id
      rw [Assoc.get?_put_self, Assoc.get?_put_self]
    · rw [ha, hb]
      exact ⟨rfl, Prod.ext h' hwaiting⟩

theorem isolated_conclude (id : String) (answer : Except GatewayError String) :
    Isolated share Settled id fun t => t.conclude id answer := by
  have hgone : ∀ (t : Traffic) other, other ≠ id →
      (t.waiting.erase id).get? other = t.waiting.get? other := by
    intro t other hother
    rw [Assoc.get?_erase, if_neg (Ne.symm hother)]
  constructor
  case keeps =>
    intro t ht
    have herase : ∀ other, ∀ q ∈ (t.waiting.erase id).get? other, q.id = other := by
      intro other q hq
      rw [Assoc.get?_erase] at hq
      split at hq
      · cases hq
      · exact ht other q hq
    unfold conclude
    rcases t.waiting.get? id with _ | p
    · exact ht
    · dsimp only
      rcases endSubmission p answer t.assistant with ⟨result, a⟩ | ⟨e, a⟩
      · exact herase
      · exact herase
  case spares =>
    intro t ht other hother
    unfold conclude
    rcases hwaiting : t.waiting.get? id with _ | p
    · rfl
    · obtain rfl := ht id p hwaiting
      have hend := confined_endSubmission p answer
      dsimp only
      rcases hresult : endSubmission p answer t.assistant with ⟨result, a⟩ | ⟨e, a⟩
      · exact Prod.ext (hend.share_of_ok hother hresult) (hgone t other hother)
      · exact Prod.ext (hend.share_of_error hother hresult) (hgone t other hother)
  case sees =>
    intro t u ht _ h
    obtain ⟨hassistant, hwaiting⟩ := Prod.mk.inj h
    unfold conclude
    rw [← hwaiting]
    rcases hp : t.waiting.get? id with _ | p
    · exact ⟨rfl, h⟩
    · obtain rfl := ht id p hp
      have hsame := (confined_endSubmission p answer).sees _ _ hassistant
      have herase : (t.waiting.erase p.id).get? p.id = (u.waiting.erase p.id).get? p.id := by
        rw [Assoc.get?_erase, Assoc.get?_erase, if_pos rfl, if_pos rfl]
      dsimp only
      obtain ⟨result, a, b, ha, hb, h'⟩ | ⟨e, a, b, ha, hb, h'⟩ := hsame.cases
      · rw [ha, hb]
        exact ⟨rfl, Prod.ext h' herase⟩
      · rw [ha, hb]
        exact ⟨rfl, Prod.ext h' herase⟩

/-- **Every turn is about its session alone.** -/
theorem isolated_step (turn : Commissioning.Turn) :
    Isolated share Settled turn.id fun t => t.step turn := by
  obtain ⟨id, act⟩ := turn
  cases act with
  | create edge => exact isolated_serve (confined_map _ (confined_createSession id edge))
  | operate o => exact isolated_serve (o.confined id)
  | submit counts towers => exact isolated_submit id counts towers
  | conclude answer => exact isolated_conclude id answer

end Traffic

/-! ### Inquiries -/

/-- A question to the device that an inquiry waits with. -/
inductive Question where
  /-- For the counts, to make the form of a session. -/
  | counts (s : Session)
  /-- For the cells of a device. -/
  | cells (edgeId : Option String)

namespace Question

/-- What is asked. -/
def live : Question → LiveQuestion
  | .counts _ => .counts
  | .cells _ => .cells

/-- Which device is asked. -/
def edgeId? : Question → Option String
  | .counts s => s.edgeId?
  | .cells edgeId => edgeId

/-- What is found with the answer of the device. -/
def find : Question → LiveAnswer → AssistantM Finding
  | .counts s, answer => do
    return .form (s.form (← Assistant.ofExcept .unwritable (answer.toDefaults (← get).settings)))
  | .cells _, answer => return .cells answer.toMetrics

end Question

namespace Inquiry

open Assistant

/-- **The first half of an inquiry**, up to the question to the device if there is one. -/
def begin (id : String) : Inquiry → AssistantM (Finding ⊕ Question)
  | .form towers modules => do
    let s ← load id
    match towers, modules with
    | some towers, some modules =>
      return .inl (.form (s.form { towers, modules, source := .input }))
    | _, _ => return .inr (.counts s)
  | .preview => (.inl ∘ .preview) <$> previewProtocol id
  | .payload country setting => (.inl ∘ .payload) <$> appPayload id country setting
  | .cells => do
    let s ← load id
    return .inr (.cells s.edgeId?)

/-- The second half of an inquiry, with the question put to the device. -/
def finish (broker : Broker) : Finding ⊕ Question → AssistantM Finding
  | .inl finding => return finding
  | .inr question => do question.find (← ask broker question.live question.edgeId?)

/-- What is found without the device is found in the first half. -/
theorem found_eq {α : Type} (broker : Broker) (f : α → Finding) (m : AssistantM α) :
    f <$> m = (Sum.inl ∘ f) <$> m >>= finish broker := by
  rw [bind_map_left]
  exact map_eq_pure_bind f m

/-- **An inquiry is its two halves.** -/
theorem answer_eq (broker : Broker) (id : String) (q : Inquiry) :
    q.answer broker id = q.begin id >>= finish broker := by
  cases q with
  | form towers modules =>
    rcases towers with _ | towers <;> rcases modules with _ | modules
    all_goals simp [answer, begin, serialNumberForm, proposedCounts, finish, Question.find,
      Question.live, Question.edgeId?]
  | preview => exact found_eq broker .preview _
  | payload country setting => exact found_eq broker .payload _
  | cells => simp [answer, begin, finish, cellMetrics, Question.find, Question.live,
      Question.edgeId?]

theorem confined_begin (q : Inquiry) (id : String) : Confined id (q.begin id) := by
  cases q with
  | form towers modules =>
    refine confined_bind (confined_load id) fun s => ?_
    split
    · exact confined_pure _
    · exact confined_pure _
  | preview =>
    exact confined_map _ (confined_bind (confined_load id) fun _ => confined_ofExcept _ _)
  | payload country setting =>
    exact confined_map _ (confined_bind (confined_load id) fun _ =>
      confined_ite (confined_throw _) (confined_pure _))
  | cells => exact confined_bind (confined_load id) fun _ => confined_pure _

end Inquiry

theorem Question.confined_find (question : Question) (answer : LiveAnswer) (id : String) :
    Assistant.Confined id (question.find answer) := by
  cases question with
  | counts s =>
    refine Assistant.confined_get (fun x => do
      return .form (s.form (← Assistant.ofExcept .unwritable (answer.toDefaults x.settings))))
      (fun x => ?_) fun _ => rfl
    exact Assistant.confined_bind (Assistant.confined_ofExcept _ _) fun _ =>
      Assistant.confined_pure _
  | cells edgeId => exact Assistant.confined_pure _

/-! ### Turns -/

/-- The assistant with all that waits: submissions for the gateway, and inquiries for the device. -/
structure Reception where
  /-- The assistant, and the submissions. -/
  traffic : Traffic
  /-- The inquiries about each session, in the order in which they were begun. -/
  asking : String → List Question := fun _ => []

namespace Reception

/-- What the assistant is asked about a session, or told. -/
inductive Matter where
  /-- An act on the session. -/
  | act (act : Act)
  /-- Whether the session is being submitted. -/
  | marked
  /-- Something to be found out. -/
  | inquire (q : Inquiry)
  /-- What the device answers to the inquiry at a place among those that wait. -/
  | hear (place : Nat) (answer : Except FeedError LiveAnswer)

/-- A matter of the session of an identifier. -/
structure Turn where
  /-- The identifier. -/
  id : String
  /-- The matter. -/
  matter : Matter

/-- The answer to a turn. -/
inductive Answer where
  /-- What comes of an act. -/
  | outcome (outcome : Outcome)
  /-- Whether the session is being submitted. -/
  | marked (b : Bool)
  /-- What is found, or why nothing is. -/
  | found (finding : Except AssistantError Finding)
  /-- The device is being asked. -/
  | asking (question : Question)
  /-- No inquiry was waiting at the place. -/
  | idle

/-- A turn that has been taken. -/
structure Event where
  /-- The turn. -/
  turn : Turn
  /-- The answer. -/
  answer : Answer
  /-- The entries of the session afterwards. -/
  entries : Entries

/-- The reception with other inquiries about a session. -/
def setAsking (r : Reception) (id : String) (questions : List Question) : Reception :=
  { r with asking := fun other => if other = id then questions else r.asking other }

/-- The reception with another assistant. -/
def setAssistant (r : Reception) (a : Assistant) : Reception :=
  { r with traffic := { r.traffic with assistant := a } }

/-- An inquiry begins: it finds what it can without the device, or waits. -/
def inquire (r : Reception) (id : String) (q : Inquiry) : Answer × Reception :=
  match q.begin id r.traffic.assistant with
  | .ok (.inl finding) a => (.found (.ok finding), r.setAssistant a)
  | .ok (.inr question) a =>
    (.asking question, (r.setAssistant a).setAsking id (r.asking id ++ [question]))
  | .error e a => (.found (.error e), r.setAssistant a)

/-- The device has answered to an inquiry that waits. -/
def hear (r : Reception) (id : String) (place : Nat) (answer : Except FeedError LiveAnswer) :
    Answer × Reception :=
  match (r.asking id)[place]? with
  | none => (.idle, r)
  | some question =>
    let r' := r.setAsking id ((r.asking id).eraseIdx place)
    match (Assistant.ofExcept .feed answer >>= question.find) r.traffic.assistant with
    | .ok finding a => (.found (.ok finding), r'.setAssistant a)
    | .error e a => (.found (.error e), r'.setAssistant a)

/-- **One turn.** -/
def step (r : Reception) (turn : Turn) : Answer × Reception :=
  match turn.matter with
  | .act act =>
    let (outcome, traffic) := r.traffic.step ⟨turn.id, act⟩
    (.outcome outcome, { r with traffic })
  | .marked => (.marked (r.traffic.assistant.isSubmitting turn.id), r)
  | .inquire q => r.inquire turn.id q
  | .hear place answer => r.hear turn.id place answer

/-- **A run**: turns, one after the other. -/
def run : Reception → List Turn → List Event × Reception
  | r, [] => ([], r)
  | r, turn :: turns =>
    let (answer, r) := r.step turn
    let (events, final) := r.run turns
    (⟨turn, answer, r.traffic.assistant.store.entries turn.id⟩ :: events, final)

/-- The assistant before the first turn, with whatever sessions there are. -/
def start (a : Assistant) : Reception := { traffic := { assistant := a } }

/-! ### Turns about other sessions -/

/-- The share of a session: that in the traffic, and the inquiries that wait. -/
def share (id : String) (r : Reception) : (Assistant.Share × Option Submission) × List Question :=
  (r.traffic.share id, r.asking id)

/-- Submissions wait under the identifiers of their sessions. -/
def Settled (r : Reception) : Prop := r.traffic.Settled

variable {id : String}

theorem share_setAsking_self (r : Reception) (id : String) (questions : List Question) :
    share id (r.setAsking id questions) = (r.traffic.share id, questions) := by
  show (r.traffic.share id, if id = id then questions else r.asking id) = _
  rw [if_pos rfl]

theorem share_setAsking_of_ne {other : String} (hother : other ≠ id) (r : Reception)
    (questions : List Question) : share other (r.setAsking id questions) = share other r := by
  show (r.traffic.share other, if other = id then questions else r.asking other) = _
  rw [if_neg hother]
  rfl

/-- Another assistant, in which a session has the same share. -/
theorem share_setAssistant {r : Reception} {a : Assistant}
    (h : Assistant.share id a = Assistant.share id r.traffic.assistant) :
    share id (r.setAssistant a) = share id r := by
  show ((Assistant.share id a, r.traffic.waiting.get? id), r.asking id) = _
  rw [h]
  rfl

theorem share_setAssistant_congr {r r' : Reception} {a b : Assistant}
    (h : Assistant.share id a = Assistant.share id b) (hr : share id r = share id r') :
    share id (r.setAssistant a) = share id (r'.setAssistant b) := by
  obtain ⟨htraffic, hasking⟩ := Prod.mk.inj hr
  obtain ⟨-, hwaiting⟩ := Prod.mk.inj htraffic
  exact Prod.ext (Prod.ext h hwaiting) hasking

theorem isolated_act (id : String) (act : Act) :
    Isolated share Settled id fun r => r.step ⟨id, .act act⟩ := by
  have h := Traffic.isolated_step ⟨id, act⟩
  constructor
  case keeps => exact fun r hr => h.keeps r.traffic hr
  case spares => exact fun r hr other hother => Prod.ext (h.spares r.traffic hr other hother) rfl
  case sees =>
    intro r r' hr hr' hshare
    obtain ⟨htraffic, hasking⟩ := Prod.mk.inj hshare
    obtain ⟨houtcome, htraffic'⟩ := h.sees r.traffic r'.traffic hr hr' htraffic
    exact ⟨congrArg Answer.outcome houtcome, Prod.ext htraffic' hasking⟩

theorem isolated_marked (id : String) :
    Isolated share Settled id fun r => r.step ⟨id, .marked⟩ := by
  refine ⟨fun _ hr => hr, fun _ _ _ _ => rfl, fun r r' _ _ hshare => ⟨?_, hshare⟩⟩
  have hmarked : r.traffic.assistant.isSubmitting id = r'.traffic.assistant.isSubmitting id :=
    congrArg (fun x => x.1.1.marked) hshare
  exact congrArg Answer.marked hmarked

theorem isolated_inquire (id : String) (q : Inquiry) :
    Isolated share Settled id fun r => r.inquire id q := by
  have hbegin := q.confined_begin id
  constructor
  case keeps =>
    intro r hr
    unfold inquire
    rcases q.begin id r.traffic.assistant with ⟨finding | question, a⟩ | ⟨e, a⟩
    all_goals exact hr
  case spares =>
    intro r _ other hother
    unfold inquire
    rcases hresult : q.begin id r.traffic.assistant with ⟨finding | question, a⟩ | ⟨e, a⟩
    · exact share_setAssistant (hbegin.share_of_ok hother hresult)
    · refine (share_setAsking_of_ne hother _ _).trans ?_
      exact share_setAssistant (hbegin.share_of_ok hother hresult)
    · exact share_setAssistant (hbegin.share_of_error hother hresult)
  case sees =>
    intro r r' _ _ hshare
    obtain ⟨htraffic, hasking⟩ := Prod.mk.inj hshare
    obtain ⟨hassistant, hwaiting⟩ := Prod.mk.inj htraffic
    unfold inquire
    obtain ⟨x, a, b, ha, hb, h'⟩ | ⟨e, a, b, ha, hb, h'⟩ := (hbegin.sees _ _ hassistant).cases
    · rw [ha, hb]
      rcases x with finding | question
      · exact ⟨rfl, share_setAssistant_congr h' hshare⟩
      · refine ⟨rfl, ?_⟩
        dsimp only
        rw [share_setAsking_self, share_setAsking_self, hasking]
        exact Prod.ext (Prod.ext h' hwaiting) rfl
    · rw [ha, hb]
      exact ⟨rfl, share_setAssistant_congr h' hshare⟩

theorem isolated_hear (id : String) (place : Nat) (answer : Except FeedError LiveAnswer) :
    Isolated share Settled id fun r => r.hear id place answer := by
  have hfind : ∀ question : Question,
      Assistant.Confined id (Assistant.ofExcept .feed answer >>= question.find) := fun question =>
    Assistant.confined_bind (Assistant.confined_ofExcept _ _) fun x => question.confined_find x id
  constructor
  case keeps =>
    intro r hr
    unfold hear
    rcases (r.asking id)[place]? with _ | question
    · exact hr
    · dsimp only
      rcases (Assistant.ofExcept .feed answer >>= question.find) r.traffic.assistant with
        ⟨finding, a⟩ | ⟨e, a⟩
      all_goals exact hr
  case spares =>
    intro r _ other hother
    unfold hear
    rcases (r.asking id)[place]? with _ | question
    · rfl
    · have hrest : share other (r.setAsking id ((r.asking id).eraseIdx place)) = share other r :=
        share_setAsking_of_ne hother _ _
      dsimp only
      rcases hresult : (Assistant.ofExcept .feed answer >>= question.find) r.traffic.assistant with
        ⟨finding, a⟩ | ⟨e, a⟩
      · rw [← hrest]
        exact share_setAssistant ((hfind question).share_of_ok hother hresult)
      · rw [← hrest]
        exact share_setAssistant ((hfind question).share_of_error hother hresult)
  case sees =>
    intro r r' _ _ hshare
    obtain ⟨htraffic, hasking⟩ := Prod.mk.inj hshare
    obtain ⟨hassistant, hwaiting⟩ := Prod.mk.inj htraffic
    unfold hear
    rw [← hasking]
    rcases (r.asking id)[place]? with _ | question
    · exact ⟨rfl, hshare⟩
    · have hrest : share id (r.setAsking id ((r.asking id).eraseIdx place)) =
          share id (r'.setAsking id ((r.asking id).eraseIdx place)) := by
        rw [share_setAsking_self, share_setAsking_self, htraffic]
      dsimp only
      obtain ⟨finding, a, b, ha, hb, h'⟩ | ⟨e, a, b, ha, hb, h'⟩ :=
        ((hfind question).sees _ _ hassistant).cases
      · rw [ha, hb]
        exact ⟨rfl, share_setAssistant_congr h' hrest⟩
      · rw [ha, hb]
        exact ⟨rfl, share_setAssistant_congr h' hrest⟩

/-- **Every turn is about its session alone.** -/
theorem isolated_step (turn : Turn) :
    Isolated share Settled turn.id fun r => r.step turn := by
  obtain ⟨id, matter⟩ := turn
  cases matter with
  | act act => exact isolated_act id act
  | marked => exact isolated_marked id
  | inquire q => exact isolated_inquire id q
  | hear place answer => exact isolated_hear id place answer

/-- The turns about other sessions can be left out of a run. -/
theorem run_filter (id : String) (turns : List Turn) {r r' : Reception} (hr : r.Settled)
    (hr' : r'.Settled) (hshare : share id r = share id r') :
    (r.run turns).1.filter (·.turn.id = id) = (r'.run (turns.filter (·.id = id))).1 ∧
      share id (r.run turns).2 = share id (r'.run (turns.filter (·.id = id))).2 := by
  induction turns generalizing r r' with
  | nil => exact ⟨rfl, hshare⟩
  | cons turn turns ih =>
    have hstep := isolated_step turn
    by_cases hid : turn.id = id
    · subst hid
      obtain ⟨hanswer, hshare'⟩ := hstep.sees r r' hr hr' hshare
      obtain ⟨hevents, hfinal⟩ := ih (hstep.keeps r hr) (hstep.keeps r' hr') hshare'
      have hentries : (r.step turn).2.traffic.assistant.store.entries turn.id =
          (r'.step turn).2.traffic.assistant.store.entries turn.id :=
        congrArg (fun x => x.1.1.entries) hshare'
      simp only [run, List.filter_cons, decide_true, if_true]
      exact ⟨by rw [hanswer, hentries, hevents], hfinal⟩
    · have hspared : share id (r.step turn).2 = share id r' :=
        (hstep.spares r hr id (Ne.symm hid)).trans hshare
      obtain ⟨hevents, hfinal⟩ := ih (hstep.keeps r hr) hr' hspared
      simp only [run, List.filter_cons, hid, decide_false, Bool.false_eq_true, if_false]
      exact ⟨hevents, hfinal⟩

/-- **Sessions do not meet.** Whatever sessions there are at first and whatever turns are taken: if
the turns about other sessions than one are left out, then every turn about the one has the same
answer and leaves it the same entries, and in the end its entries are the same. -/
theorem isolated (a : Assistant) (id : String) (turns : List Turn) :
    let whole := (start a).run turns
    let alone := (start a).run (turns.filter (·.id = id))
    whole.1.filter (·.turn.id = id) = alone.1 ∧
      whole.2.traffic.assistant.store.entries id = alone.2.traffic.assistant.store.entries id := by
  intro whole alone
  have hsettled : (start a).Settled := fun _ _ h => by cases h
  obtain ⟨hevents, hshare⟩ := run_filter id turns hsettled hsettled rfl
  exact ⟨hevents, congrArg (fun x => x.1.1.entries) hshare⟩

end Reception

end Commissioning
