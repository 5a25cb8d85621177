import Commissioning.Api.Server
import Commissioning.Proofs.Assistant.Traffic
import Commissioning.Proofs.Gateway.Answer
import Commissioning.Proofs.Session.Loading

/-!
# A submission from end to end

`Commissioning.Assistant.submit` is a whole submission: its first half, one call of the gateway
with the protocol that it has assembled, and its second half with the answer. The gateway is
whatever takes a protocol and a state of its own and gives an answer and its next state, so what
becomes of that state shows how it was called.

Where nothing is wrong with the form, and the gateway archives the protocol or fails in an orderly
way, a submission does what it is meant to do (`Commissioning.Assistant.submit_submits`). This is
shown of every session that can be loaded, from whatever texts: what is loaded is sound
(`Commissioning.Session.sound_of_load`), and each half leaves a sound session in the store
(`Commissioning.Assistant.prepare_submits`, `Commissioning.Assistant.conclude_submits`), so what
is loaded afterwards is what the submission had in memory.

The server takes the two halves in two steps, and between them it waits for the gateway. What it
answers in the end is what comes of the whole (`Commissioning.Server.finish_submit`).
-/

namespace Commissioning

namespace SessionStore

/-- A session is written into a store, and the others are as they were. -/
structure Written (id : String) (s : Session) (store store' : SessionStore) : Prop where
  held : store'.Holds id (some s)
  frame : ∀ other, other ≠ id → store'.entries other = store.entries other

variable {id : String} {s s' : Session} {store store' store'' : SessionStore}

/-- What is written last counts. -/
theorem Written.trans (h : Written id s store store') (h' : Written id s' store' store'') :
    Written id s' store store'' :=
  ⟨h'.held, fun other hother => (h'.frame other hother).trans (h.frame other hother)⟩

/-- A sound session with a device is written, whatever stands in its place. -/
theorem exists_written (id : String) (store : SessionStore) (hs : s.Sound) (hedge : s.edge ≠ none) :
    ∃ store', s.save id store = .ok () store' ∧ Written id s store store' := by
  have hleft : s.edge = none → (store.entries id).get? edgeKey = none := fun hnone =>
    absurd hnone hedge
  obtain ⟨store', hsave, hkept, hframe⟩ := Session.save_of_sound hs hleft
  exact ⟨store', hsave, ⟨hs, hkept⟩, hframe⟩

end SessionStore

namespace Session

/-- **The session after a submission**: with its serial numbers, with the identifier of the
protocol if it was archived, and one view on. -/
def submitted (s : Session) (numbers : SerialNumbers) (answer : Except GatewayError String) :
    Session :=
  { s with
    data :=
      { s.data with
        battery := { s.data.battery with serialNumbers := numbers }
        setupProtocolId :=
          match answer with
          | .ok protocolId => some protocolId
          | .error _ => s.data.setupProtocolId }
    viewIndex := s.viewIndex + 1 }

/-- What comes of the submission that leaves this session. -/
def submissionResult (s : Session) (numbers : SerialNumbers)
    (answer : Except GatewayError String) : SubmissionResult :=
  { protocolId := answer.toOption, navigation := Navigator.madeTo (s.viewIndex + 1),
    session := s.submitted numbers answer }

variable {s : Session} (numbers : SerialNumbers) (answer : Except GatewayError String)

/-- It is what the second half of the submission has in hand, one view on. -/
theorem movedTo_inHand (id : String) (protocol : SetupProtocol) :
    ((⟨id, s.withSerialNumbers numbers, protocol⟩ : Submission).inHand answer).movedTo
      (s.viewIndex + 1) = s.submitted numbers answer := by
  cases answer <;> rfl

/-- The identifier of an archived protocol and the index are not part of a protocol. -/
theorem protocol_submitted (edgeId : String) : (s.submitted numbers answer).data.protocol edgeId =
    (s.withSerialNumbers numbers).data.protocol edgeId := by
  cases answer <;> rfl

/-- The view behind the serial numbers is the last one. -/
theorem currentView_submitted (hs : s.Sound) (hs' : (s.submitted numbers answer).Sound)
    (hview : s.currentView = .ok (some .protocolSerialNumbers)) :
    (s.submitted numbers answer).currentView = .ok (some .completion) := by
  rw [hs'.currentView]
  exact congrArg Except.ok (hs.viewIndex_of_serialNumbers hview).2

end Session

namespace Assistant

/-! ### The statement -/

/-- **A whole submission**, with the gateway called between its halves. -/
def submit {σ : Type} (call : SetupProtocol → σ → Except GatewayError String × σ) (id : String)
    (counts : Members) (towers : TowerValues) (a : Assistant) (g : σ) :
    Except AssistantError SubmissionResult × Assistant × σ :=
  match beginSubmission id counts towers a with
  | .error e a => (.error e, a, g)
  | .ok p a =>
    match endSubmission p (call p.protocol g).1 a with
    | .ok result a => (.ok result, a, (call p.protocol g).2)
    | .error e a => (.error e, a, (call p.protocol g).2)

/-- **Nothing is wrong with the form** for a system, and these are its serial numbers. -/
structure Accepts (fallback : SerialNumberDefaults) (system : StorageSystem) (counts : Members)
    (towers : TowerValues) (numbers : SerialNumbers) : Prop where
  settings : checkSettings (system.countFields fallback.towers fallback.modules) counts = .ok []
  collected : ∃ towerCount moduleCount, settingsCounts counts = .ok (towerCount, moduleCount) ∧
    (system.serialNumberSchema
      { towers := towerCount, modules := moduleCount, source := .input }).collect towers =
        .ok (numbers, [])

/-- **What a submission does** to the assistant that has the session, when the gateway is called
with the protocol and gives the answer. -/
structure Submits (id : String) (s : Session) (numbers : SerialNumbers) (protocol : SetupProtocol)
    (answer : Except GatewayError String) (a a' : Assistant) : Prop where
  previewed : previewProtocol id a' = .ok protocol a'
  loaded : load id a' = .ok (s.submitted numbers answer) a'
  view : (s.submitted numbers answer).currentView = .ok (some .completion)
  submittedCount : a'.submittedCount = a.submittedCount + answer.toBool.toNat
  failedCount : a'.failedCount = a.failedCount + (!answer.toBool).toNat
  free : a'.isSubmitting id = false
  others : ∀ other, other ≠ id → a'.store.entries other = a.store.entries other ∧
    a'.isSubmitting other = a.isSubmitting other

/-- The assistant with another store. -/
def withStore (a : Assistant) (store : SessionStore) : Assistant := { a with store }

/-- The assistant with a submission counted by the answer of the gateway. -/
def counted (a : Assistant) : Except GatewayError String → Assistant
  | .ok _ => { a with submittedCount := a.submittedCount + 1 }
  | .error _ => { a with failedCount := a.failedCount + 1 }

theorem withStore_counted (a : Assistant) (answer : Except GatewayError String)
    (store store' : SessionStore) :
    ((a.withStore store).counted answer).withStore store' =
      (a.counted answer).withStore store' := by
  cases answer <;> rfl

theorem busy_counted (a : Assistant) (answer : Except GatewayError String) :
    (a.counted answer).busy = a.busy := by
  cases answer <;> rfl

theorem submittedCount_counted (a : Assistant) (answer : Except GatewayError String) :
    (a.counted answer).submittedCount = a.submittedCount + answer.toBool.toNat := by
  cases answer <;> rfl

theorem failedCount_counted (a : Assistant) (answer : Except GatewayError String) :
    (a.counted answer).failedCount = a.failedCount + (!answer.toBool).toNat := by
  cases answer <;> rfl

variable {id : String} {a : Assistant} {s : Session} {counts : Members} {towers : TowerValues}
  {numbers : SerialNumbers} {edge : Edge}

/-! ### Loading, saving, moving -/

/-- Loading looks at the entries of the session only. -/
theorem load_eq_ok_iff {a' : Assistant} : load id a = .ok s a' ↔
    (a.store.has id = true ∧ Session.load (a.store.entries id) = .ok s) ∧ a' = a := by
  have hload : load id a =
      (if a.store.has id then ofExcept .unreadable (Session.load (a.store.entries id))
        else throw (.sessionNotFound id) : AssistantM Session) a := rfl
  rw [hload]
  by_cases hhas : a.store.has id = true
  · rw [if_pos hhas]
    rcases Session.load (a.store.entries id) with e | s'
    · refine ⟨fun h => ?_, fun h => ?_⟩
      · cases h
      · cases h.1.2
    · refine ⟨fun h => ?_, fun h => ?_⟩
      · cases h
        exact ⟨⟨hhas, rfl⟩, rfl⟩
      · obtain ⟨⟨-, hs⟩, rfl⟩ := h
        cases hs
        rfl
  · rw [if_neg hhas]
    refine ⟨fun h => ?_, fun h => absurd h.1.1 hhas⟩
    cases h

theorem save_of_edge (id : String) (a : Assistant) (hs : s.Sound) (hedge : s.edge ≠ none) :
    ∃ store, save id s a = .ok () (a.withStore store) ∧
      SessionStore.Written id s a.store store := by
  obtain ⟨store, hsave, hwritten⟩ := SessionStore.exists_written id a.store hs hedge
  refine ⟨store, ?_, hwritten⟩
  rw [save, hsave]
  rfl

theorem navigate_advance_of_lt (id : String) (a : Assistant) (hs : s.Sound)
    (hedge : s.edge ≠ none) (hlt : s.viewIndex + 1 < s.viewCount) :
    ∃ store, navigate id s Navigator.advance a =
        .ok (Navigator.madeTo (s.viewIndex + 1), s.movedTo (s.viewIndex + 1)) (a.withStore store) ∧
      SessionStore.Written id (s.movedTo (s.viewIndex + 1)) a.store store := by
  have hnonneg := hs.index_nonneg
  obtain ⟨store, hsave, hwritten⟩ :=
    SessionStore.exists_written id a.store (hs.movedTo (by omega) hlt) hedge
  exact ⟨store, navigate_of_ok (Navigator.advance_of_lt hs hlt hsave), hwritten⟩

/-! ### The first half -/

theorem mapError_ok {ε ε' α : Type} (x : α) (f : ε → ε') :
    (Except.ok x : Except ε α).mapError f = .ok x := rfl

theorem ok_bind {ε α β : Type} (x : α) (f : α → Except ε β) :
    (Except.ok x : Except ε α) >>= f = f x := rfl

theorem Accepts.acceptForm {fallback : SerialNumberDefaults} {system : StorageSystem}
    (h : Accepts fallback system counts towers numbers) :
    acceptForm system fallback counts towers = .ok numbers := by
  obtain ⟨towerCount, moduleCount, hcounts, hcollect⟩ := h.collected
  simp only [Assistant.acceptForm, h.settings, hcounts, hcollect, mapError_ok, ok_bind]
  rfl

/-- **The first half** writes the session with its serial numbers and assembles their protocol. -/
theorem prepare_submits (hload : load id a = .ok s a) (hs : s.Sound)
    (hview : s.currentView = .ok (some .protocolSerialNumbers)) (hedge : s.edge = some edge)
    (haccepts : Accepts a.settings.fallbackDefaults s.system counts towers numbers) :
    ∃ store protocol, prepare id counts towers a =
        .ok ⟨id, s.withSerialNumbers numbers, protocol⟩ (a.withStore store) ∧
      (s.withSerialNumbers numbers).data.protocol edge.id = .ok protocol ∧
      SessionStore.Written id (s.withSerialNumbers numbers) a.store store := by
  have hs' := hs.withSerialNumbers numbers
  have hne : s.edge ≠ none := by
    rw [hedge]
    exact Option.some_ne_none edge
  obtain ⟨store, hsave, hwritten⟩ := save_of_edge id a hs' hne
  obtain ⟨protocol, hprotocol⟩ := Installation.exists_protocol hs'.writable edge.id
  refine ⟨store, protocol, ?_, hprotocol, hwritten⟩
  rw [prepare, bind_of_ok hload, hview, bind_of_ok (show ofExcept .noView _ a = .ok _ a from rfl)]
  simp only [ne_eq, not_true_eq_false, if_false, hedge]
  rw [bind_of_ok (show (get : AssistantM Assistant) a = .ok a a from rfl), haccepts.acceptForm,
    bind_of_ok (show ofExcept (fun e => e) (.ok numbers) a = .ok numbers a from rfl),
    bind_of_ok hsave, hprotocol]
  rfl

/-- A submission begins if its session is not being submitted already. -/
theorem beginSubmission_of_prepare {p : Submission} {a' : Assistant}
    (hfree : a.isSubmitting id = false) (h : prepare id counts towers (a.mark id) = .ok p a') :
    beginSubmission id counts towers a = .ok p a' := by
  rw [beginSubmission, hfree, h]
  rfl

/-! ### The second half -/

/-- **The second half** counts the submission, and writes the session that it has in hand at the
view that follows. -/
theorem conclude_submits {p : Submission} (a : Assistant) (hp : p.IsReady id)
    {answer : Except GatewayError String} (horderly : (Act.conclude answer).Orderly) :
    ∃ store, conclude p answer a =
        .ok ⟨answer.toOption, Navigator.madeTo (p.session.viewIndex + 1),
          (p.inHand answer).movedTo (p.session.viewIndex + 1)⟩
          ((a.counted answer).withStore store) ∧
      SessionStore.Written id ((p.inHand answer).movedTo (p.session.viewIndex + 1))
        a.store store := by
  obtain rfl := hp.id_eq
  have hcount := (hp.sound.viewIndex_of_serialNumbers hp.view).1
  have hlt : p.session.viewIndex + 1 < p.session.viewCount := by omega
  rcases answer with why | protocolId
  · cases why with
    | rejected status detail =>
      obtain ⟨store, hmove, hwritten⟩ := navigate_advance_of_lt p.id
        (a.counted (.error (.rejected status detail))) hp.sound hp.edge hlt
      exact ⟨store, bind_of_ok hmove, hwritten⟩
    | _ => cases horderly
  · obtain ⟨store, hmove, hwritten⟩ := navigate_advance_of_lt p.id (a.counted (.ok protocolId))
      (hp.sound.withProtocolId protocolId) hp.edge hlt
    exact ⟨store, bind_of_ok hmove, hwritten⟩

theorem endSubmission_of_conclude {p : Submission} {answer : Except GatewayError String}
    {result : SubmissionResult} {a' : Assistant} (h : conclude p answer a = .ok result a') :
    endSubmission p answer a = .ok result (a'.unmark p.id) := by
  rw [endSubmission, h]

/-! ### The whole -/

/-- The assistant after both halves, from what they leave in the store. -/
theorem submits_of_written {protocol : SetupProtocol} {store : SessionStore} (hs : s.Sound)
    (hview : s.currentView = .ok (some .protocolSerialNumbers)) (hedge : s.edge = some edge)
    (hprotocol : (s.withSerialNumbers numbers).data.protocol edge.id = .ok protocol)
    (answer : Except GatewayError String)
    (hwritten : SessionStore.Written id (s.submitted numbers answer) a.store store) :
    Submits id s numbers protocol answer a
      ((((a.mark id).counted answer).withStore store).unmark id) := by
  have hloaded : load id ((((a.mark id).counted answer).withStore store).unmark id) =
      .ok (s.submitted numbers answer) ((((a.mark id).counted answer).withStore store).unmark id) :=
    load_of_holds hwritten.held
  have hpreviewed : previewProtocol id ((((a.mark id).counted answer).withStore store).unmark id) =
      .ok protocol ((((a.mark id).counted answer).withStore store).unmark id) := by
    have hid : (s.submitted numbers answer).edgeId? = some edge.id :=
      congrArg (Option.map Edge.id) hedge
    rw [previewProtocol, bind_of_ok hloaded, hid, Option.getD_some, Session.protocol_submitted,
      hprotocol]
    rfl
  refine ⟨hpreviewed, hloaded,
    Session.currentView_submitted numbers answer hs hwritten.held.1 hview,
    submittedCount_counted _ answer, failedCount_counted _ answer, ?_,
    fun other hother => ⟨hwritten.frame other hother, ?_⟩⟩
  · rw [isSubmitting, Traffic.contains_unmark, decide_eq_false (not_not_intro rfl), Bool.false_and]
  · have hbusy : (((a.mark id).counted answer).withStore store).busy = (a.mark id).busy :=
      busy_counted _ answer
    rw [isSubmitting, Traffic.contains_unmark, hbusy, Traffic.contains_mark,
      decide_eq_true hother, decide_eq_false hother, Bool.true_and, Bool.false_or]
    rfl

/-- **A submission of a session at its serial numbers**, with a form that nothing is wrong with.
There is one protocol with which whatever gateway is called, and called once; if it answers or
fails in an orderly way, the submission does what it is meant to do. -/
theorem submit_submits (hload : load id a = .ok s a)
    (hview : s.currentView = .ok (some .protocolSerialNumbers)) (hedge : s.edge ≠ none)
    (hfree : a.isSubmitting id = false)
    (haccepts : Accepts a.settings.fallbackDefaults s.system counts towers numbers) :
    ∃ protocol, ∀ {σ : Type} (call : SetupProtocol → σ → Except GatewayError String × σ) (g : σ),
      (Act.conclude (call protocol g).1).Orderly →
        ∃ a', submit call id counts towers a g =
            (.ok (s.submissionResult numbers (call protocol g).1), a', (call protocol g).2) ∧
          Submits id s numbers protocol (call protocol g).1 a a' := by
  obtain ⟨edge, hbound⟩ := Option.ne_none_iff_exists'.mp hedge
  obtain ⟨hentries, -⟩ := load_eq_ok_iff.mp hload
  have hs : s.Sound := Session.sound_of_load hentries.2
  have hmarked : load id (a.mark id) = .ok s (a.mark id) := load_eq_ok_iff.mpr ⟨hentries, rfl⟩
  -- The protocol is assembled in the first half, so before the gateway has any say.
  obtain ⟨store, protocol, hprepare, hprotocol, hwritten⟩ :=
    prepare_submits hmarked hs hview hbound haccepts
  have hready : Submission.IsReady ⟨id, s.withSerialNumbers numbers, protocol⟩ id :=
    ⟨rfl, hs.withSerialNumbers numbers, hedge, hview⟩
  refine ⟨protocol, fun call g horderly => ?_⟩
  obtain ⟨store', hconclude, hwritten'⟩ :=
    conclude_submits ((a.mark id).withStore store) hready horderly
  have hindex : (s.withSerialNumbers numbers).viewIndex = s.viewIndex := rfl
  rw [hindex, Session.movedTo_inHand] at hconclude hwritten'
  refine ⟨_, ?_, submits_of_written hs hview hbound hprotocol (call protocol g).1
    (hwritten.trans hwritten')⟩
  rw [submit, beginSubmission_of_prepare hfree hprepare]
  simp only [endSubmission_of_conclude hconclude, withStore_counted]
  rfl

/-- As little of a session as can be stored at the serial numbers, with a device. -/
def sparseStore : SessionStore :=
  (((SessionStore.empty .memory).set "a" systemKey "\x7b\"id\":\"FENECON_HOME\"\x7d").set "a"
    viewIndexKey "12").set "a" edgeKey "\x7b\"id\":\"edge0\"\x7d"

/-- The serial numbers of the form, those of a tower with four modules. -/
def formNumbers : SerialNumbers :=
  { tower1 := [⟨"Home - Wechselrichter", some "IN1234567890"⟩,
      ⟨"Home - EMS Box", some "EMS0000001"⟩,
      ⟨"Home - BMS Box & Sockel", some "519100001009"⟩,
      ⟨"Home - Batteriemodul 1", some "519110001210"⟩,
      ⟨"Home - Batteriemodul 2", some "519110001210"⟩,
      ⟨"Home - Batteriemodul 3", some "519110001210"⟩,
      ⟨"Home - Batteriemodul 4", some "519110001210"⟩] }

theorem eq_ok_of_toOption {ε α : Type} {x : Except ε α} {y : α} (h : x.toOption = some y) :
    x = .ok y := by
  cases x with
  | ok _ => exact congrArg Except.ok (Option.some.inj h)
  | error _ => cases h

/-- The form for it is submitted, and a gateway that keeps what it is called with archives it. -/
theorem submit_submits_sparse :
    let a : Assistant := { settings := {}, store := sparseStore, gateway := default }
    ∃ protocol result a',
      submit (fun p calls => (.ok "P1", calls ++ [p])) "a" formCounts formTowers a [] =
        (.ok result, a', [protocol]) ∧
      Submits "a" { system := .home, viewIndex := 12, edge := some { id := "edge0" } } formNumbers
        protocol (.ok "P1") a a' := by
  have hload : Session.load (sparseStore.entries "a") =
      .ok { system := .home, viewIndex := 12, edge := some { id := "edge0" } } :=
    eq_ok_of_toOption (by decide +kernel)
  have haccepts : Accepts ({} : Settings).fallbackDefaults .home formCounts formTowers
      formNumbers :=
    ⟨eq_ok_of_toOption (by decide +kernel), 1, 4, eq_ok_of_toOption (by decide +kernel),
      eq_ok_of_toOption (by decide +kernel)⟩
  obtain ⟨protocol, hprotocol⟩ :=
    submit_submits (a := { settings := {}, store := sparseStore, gateway := default })
      (load_eq_ok_iff.mpr ⟨⟨by decide, hload⟩, rfl⟩) (eq_ok_of_toOption (by decide +kernel))
      (by decide) (by decide) haccepts
  obtain ⟨a', hsubmit, hsubmits⟩ :=
    hprotocol (fun p calls => (.ok "P1", calls ++ [p])) [] trivial
  exact ⟨protocol, _, a', hsubmit, hsubmits⟩

/-! ### In the server -/

theorem bind_eq_ok {α β : Type} {m : AssistantM α} {f : α → AssistantM β} {y : β} {a' : Assistant}
    (h : (m >>= f) a = .ok y a') : ∃ x a'', m a = .ok x a'' ∧ f x a'' = .ok y a' := by
  rcases hm : m a with ⟨x, a''⟩ | ⟨e, a''⟩
  · exact ⟨x, a'', rfl, (bind_of_ok hm).symm.trans h⟩
  · rw [bind_of_error hm] at h
    cases h

theorem eq_of_ofExcept {ε α : Type} {wrap : ε → AssistantError} {x : Except ε α} {y : α}
    {a' : Assistant} (h : ofExcept wrap x a = .ok y a') : a' = a := by
  cases x with
  | ok _ =>
    cases h
    rfl
  | error _ => cases h

theorem gateway_of_save {a' : Assistant} (h : save id s a = .ok () a') :
    a'.gateway = a.gateway := by
  unfold save at h
  split at h
  · cases h
    rfl
  · cases h

/-- A submission is one of its session, and the assistant archives where it did before. -/
theorem prepare_frame {p : Submission} {a' : Assistant}
    (h : prepare id counts towers a = .ok p a') : p.id = id ∧ a'.gateway = a.gateway := by
  obtain ⟨s, _, hload, hview⟩ := bind_eq_ok h
  obtain ⟨-, rfl⟩ := load_eq_ok_iff.mp hload
  obtain ⟨view, _, hview, hedge⟩ := bind_eq_ok hview
  obtain rfl := eq_of_ofExcept hview
  by_cases hplace : view = some .protocolSerialNumbers
  · simp only [hplace, ne_eq, not_true_eq_false, if_false] at hedge
    rcases hbound : s.edge with _ | edge
    · rw [hbound] at hedge
      cases hedge
    rw [hbound] at hedge
    obtain ⟨_, _, hget, hform⟩ := bind_eq_ok hedge
    cases hget
    obtain ⟨numbers, _, hform, hsave⟩ := bind_eq_ok hform
    obtain rfl := eq_of_ofExcept hform
    obtain ⟨_, _, hsave, hprotocol⟩ := bind_eq_ok hsave
    obtain ⟨protocol, _, hprotocol, hpure⟩ := bind_eq_ok hprotocol
    obtain rfl := eq_of_ofExcept hprotocol
    cases hpure
    exact ⟨rfl, gateway_of_save hsave⟩
  · simp only [hplace, ne_eq, not_false_eq_true, if_true] at hedge
    cases hedge

theorem beginSubmission_frame {p : Submission} {a' : Assistant}
    (h : beginSubmission id counts towers a = .ok p a') : p.id = id ∧ a'.gateway = a.gateway := by
  unfold beginSubmission at h
  split at h
  · cases h
  split at h
  · next hprepare =>
    cases h
    exact prepare_frame (a := a.mark id) hprepare
  · cases h

end Assistant

namespace Server

/-- A request that is seen to its end, with the gateway sending this back. -/
def finish (send : GatewayRequest → Exchange) : Progress × Server → Response × Server
  | (.done response, server) => (response, server)
  | (.calling p request, server) => server.resume p (send request)

/-- **A request to submit serial numbers is a whole submission**, with the gateway of the
assistant, whose calls are counted. -/
theorem finish_submit (env : Surroundings) (server : Server) (a : Assistant) (id : String)
    (r : SubmitRequest) (send : GatewayRequest → Exchange) :
    let outcome := Assistant.submit
      (fun protocol called =>
        (a.gateway.archive (env.requestId called) protocol send, called + 1))
      id r.settings r.towers a server.called
    finish send (server.submit env a id r) =
      { server with called := outcome.2.2 }.run outcome.2.1
        (Assistant.ofExcept (fun e => e) outcome.1) fun a result =>
          (result.toJson id (a.isSubmitting id)).map .ok := by
  intro outcome
  rcases hbegin : Assistant.beginSubmission id r.settings r.towers a with ⟨p, a'⟩ | ⟨e, a'⟩
  · obtain ⟨rfl, hgateway⟩ := Assistant.beginSubmission_frame hbegin
    have hcalled : finish send (server.submit env a p.id r) =
        { server with assistant := some a', called := server.called + 1 }.conclude p
          (a.gateway.archive (env.requestId server.called) p.protocol send) := by
      simp only [submit, hbegin, hgateway, Nat.add_sub_cancel]
      rcases hrequest : a.gateway.request (env.requestId server.called) p.protocol with e | request
      · simp only [Gateway.archive, hrequest]
        rfl
      · simp only [Gateway.archive_of_request hrequest]
        rfl
    rw [hcalled]
    simp only [outcome, Assistant.submit, hbegin]
    rcases hend : Assistant.endSubmission p
        (a.gateway.archive (env.requestId server.called) p.protocol send) a' with
      ⟨result, a''⟩ | ⟨e, a''⟩
    · simp only [conclude, run, hend]
      rfl
    · simp only [conclude, run, hend]
      rfl
  · simp only [outcome, Assistant.submit, submit, hbegin]
    rfl

end Server

end Commissioning
