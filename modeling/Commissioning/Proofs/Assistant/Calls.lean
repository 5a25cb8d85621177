import Commissioning.Proofs.Assistant.Frame
import Mathlib.Data.List.InsertIdx
import Mathlib.Data.List.Nodup

/-!
# Calls that are running

A call to submit serial numbers is running (`Commissioning.Call`) from the moment at which it is
admitted until it ends, in whatever way: with a result, with an error before the gateway is called,
with what the gateway has answered, or by breaking off at any point. The desk
(`Commissioning.Desk`) is the assistant together with the calls that are running, and its events
(`Commissioning.Desk.Event`) come in any order: calls arrive, get on and end, and other requests
are served.

The mark of a session is set before anything else is done for a call, and taken away at its end,
so the two steps between which it stands are events of their own here. Put together they are the
two halves of a submission (`Commissioning.Desk.prepare_arrive`, `Commissioning.Desk.answer_apply`).

**The marks are the sessions of the calls that are running**, each of them once
(`Commissioning.Desk.Marked`). Every event preserves this (`Commissioning.Desk.marked_step`): a
call that is refused does not come as far as taking a mark away, and a call that ends takes away
the mark of its own session only, which no other call has.
-/

namespace Commissioning

/-- A call to submit the serial numbers of a session, from its admission to its end. -/
inductive Call where
  /-- It is admitted, and nothing else has been done for it. -/
  | admitted (id : String) (counts : Members) (towers : TowerValues)
  /-- The gateway is being called for it. -/
  | calling (p : Submission)

/-- The identifier of the session. -/
def Call.id : Call → String
  | .admitted id _ _ => id
  | .calling p => p.id

/-- The assistant, and the calls that are running. -/
structure Desk where
  /-- The assistant. -/
  assistant : Assistant
  /-- The calls, in the order in which they have been admitted. -/
  calls : List Call := []

namespace Desk

open Assistant

/-- What can happen next. A call is named by its place among those that are running. -/
inductive Event where
  /-- A call arrives. -/
  | arrive (id : String) (counts : Members) (towers : TowerValues)
  /-- The form of a call is looked at, and its session is kept. -/
  | prepare (place : Nat)
  /-- The gateway answers to a call. -/
  | answer (place : Nat) (answer : Except GatewayError String)
  /-- A call breaks off and leaves the assistant like this, but for the marks. -/
  | breakOff (place : Nat) (left : Assistant)
  /-- A session is created. -/
  | create (id : String) (edge : Option Edge)
  /-- Something else is done with a session. -/
  | operate (id : String) (o : Operation)
  /-- Something is asked about a session. -/
  | inquire (broker : Broker) (id : String) (q : Inquiry)

/-- The desk after an operation that belongs to no call. -/
def serve {α : Type} (d : Desk) (m : AssistantM α) : Desk :=
  { d with assistant := after m d.assistant }

/-- A call arrives: it is refused while its session is marked, and admitted with a mark if not. -/
def arrive (d : Desk) (id : String) (counts : Members) (towers : TowerValues) : Desk :=
  if d.assistant.isSubmitting id then d
  else ⟨d.assistant.mark id, d.calls ++ [.admitted id counts towers]⟩

/-- The rest of the first half of a call: it gets on to the gateway, or ends. -/
def prepare (d : Desk) (place : Nat) : Desk :=
  match d.calls[place]? with
  | some (.admitted id counts towers) =>
    match Assistant.prepare id counts towers d.assistant with
    | .ok p a => ⟨a, d.calls.set place (.calling p)⟩
    | .error _ a => ⟨a.unmark id, d.calls.eraseIdx place⟩
  | _ => d

/-- The second half of a call, which ends it. -/
def answer (d : Desk) (place : Nat) (answer : Except GatewayError String) : Desk :=
  match d.calls[place]? with
  | some (.calling p) => ⟨after (endSubmission p answer) d.assistant, d.calls.eraseIdx place⟩
  | _ => d

/-- A call breaks off. Nothing is known of the state that it leaves, but for the marks: they are
not touched before the end of a call, and then its own mark goes. -/
def breakOff (d : Desk) (place : Nat) (left : Assistant) : Desk :=
  match d.calls[place]? with
  | some call =>
    ⟨{ left with busy := d.assistant.busy }.unmark call.id, d.calls.eraseIdx place⟩
  | none => d

/-- **One event.** -/
def step (d : Desk) : Event → Desk
  | .arrive id counts towers => d.arrive id counts towers
  | .prepare place => d.prepare place
  | .answer place answer => d.answer place answer
  | .breakOff place left => d.breakOff place left
  | .create id edge => d.serve (createSession id edge)
  | .operate id o => d.serve (o.perform id)
  | .inquire broker id q => d.serve (q.answer broker id)

/-- **A run**: events, one after the other. -/
def run (d : Desk) (events : List Event) : Desk := events.foldl step d

/-! ### The two halves of a submission -/

variable {d : Desk} {id : String} {counts : Members} {towers : TowerValues} {place : Nat}

/-- Where a call is refused, it is refused by the first half of a submission. -/
theorem arrive_of_busy (h : d.assistant.isSubmitting id = true) :
    d.arrive id counts towers = d ∧
      beginSubmission id counts towers d.assistant = .error .submissionRunning d.assistant :=
  ⟨if_pos h, if_pos h⟩

theorem arrive_of_free (h : d.assistant.isSubmitting id = false) : d.arrive id counts towers =
    ⟨d.assistant.mark id, d.calls ++ [.admitted id counts towers]⟩ :=
  if_neg (by rw [h]; exact Bool.false_ne_true)

/-- **The first half** is a call that is admitted and at once prepared. -/
theorem prepare_arrive (h : d.assistant.isSubmitting id = false) :
    (d.arrive id counts towers).prepare d.calls.length =
      match beginSubmission id counts towers d.assistant with
      | .ok p a => ⟨a, d.calls ++ [.calling p]⟩
      | .error _ a => ⟨a, d.calls⟩ := by
  rw [arrive_of_free h, beginSubmission, h]
  simp only [prepare, List.getElem?_concat_length, Bool.false_eq_true, if_false]
  rcases Assistant.prepare id counts towers (d.assistant.mark id) with ⟨p, a⟩ | ⟨e, a⟩
  · simp
  · simp [List.eraseIdx_append_of_length_le]

/-- **The second half** is the end of a call for which the gateway was called. -/
theorem answer_apply {p : Submission} (h : d.calls[place]? = some (.calling p))
    (answer : Except GatewayError String) :
    d.answer place answer =
      ⟨after (endSubmission p answer) d.assistant, d.calls.eraseIdx place⟩ := by
  rw [Desk.answer, h]

/-! ### The marks -/

/-- **The marks are the sessions of the calls that are running**, each of them once. -/
structure Marked (d : Desk) : Prop where
  busy : d.assistant.busy = d.calls.map Call.id
  nodup : (d.calls.map Call.id).Nodup

theorem Marked.isSubmitting_iff (h : d.Marked) (id : String) :
    d.assistant.isSubmitting id = true ↔ ∃ call ∈ d.calls, call.id = id := by
  rw [isSubmitting, h.busy]
  simp

/-- What leaves marks and calls as they are. -/
theorem Marked.serve {α : Type} {m : AssistantM α} (h : d.Marked) (hm : Keeps Assistant.busy m) :
    (d.serve m).Marked :=
  ⟨(hm d.assistant).trans h.busy, h.nodup⟩

/-- **The end of a call** takes one mark away, that of its session, and there was one. -/
theorem Marked.release {a : Assistant} {call : Call} (h : d.Marked)
    (hcall : d.calls[place]? = some call) (ha : a.busy = d.assistant.busy) :
    Marked ⟨a.unmark call.id, d.calls.eraseIdx place⟩ := by
  obtain ⟨hplace, rfl⟩ := List.getElem?_eq_some_iff.mp hcall
  have herase : (d.calls.eraseIdx place).map Call.id = (d.calls.map Call.id).eraseIdx place :=
    (List.eraseIdx_map Call.id d.calls place).symm
  have hplace' : place < (d.calls.map Call.id).length := by simpa using hplace
  have hid : (d.calls.map Call.id)[place] = d.calls[place].id := by simp
  constructor
  · show a.busy.filter (· != d.calls[place].id) = _
    rw [ha, h.busy, herase, ← h.nodup.erase_eq_filter, ← hid, h.nodup.erase_getElem]
  · rw [herase]
    exact h.nodup.sublist (List.eraseIdx_sublist _ _)

/-- **A call that gets on** does so under its identifier, and its mark stays. -/
theorem Marked.replace {a : Assistant} {call next : Call} (h : d.Marked)
    (hcall : d.calls[place]? = some call) (hnext : next.id = call.id)
    (ha : a.busy = d.assistant.busy) : Marked ⟨a, d.calls.set place next⟩ := by
  obtain ⟨hplace, rfl⟩ := List.getElem?_eq_some_iff.mp hcall
  have hplace' : place < (d.calls.map Call.id).length := by simpa using hplace
  have hid : next.id = (d.calls.map Call.id)[place] := by
    rw [hnext, List.getElem_map]
  have hids : (d.calls.set place next).map Call.id = d.calls.map Call.id := by
    rw [List.map_set, hid, List.set_getElem_self]
  constructor
  · show a.busy = (d.calls.set place next).map Call.id
    rw [ha, h.busy, hids]
  · show ((d.calls.set place next).map Call.id).Nodup
    rw [hids]
    exact h.nodup

theorem marked_arrive (h : d.Marked) (id : String) (counts : Members) (towers : TowerValues) :
    (d.arrive id counts towers).Marked := by
  cases hbusy : d.assistant.isSubmitting id with
  | true =>
    rw [(arrive_of_busy hbusy).1]
    exact h
  | false =>
    have hnew : ∀ call ∈ d.calls, call.id ≠ id := by
      intro call hcall hid
      have hmarked := (h.isSubmitting_iff id).mpr ⟨call, hcall, hid⟩
      rw [hbusy] at hmarked
      cases hmarked
    have hmark : (d.assistant.mark id).busy = d.assistant.busy ++ [id] := by
      rw [mark, show d.assistant.busy.contains id = false from hbusy]
      rfl
    rw [arrive_of_free hbusy]
    constructor
    · show (d.assistant.mark id).busy = _
      rw [hmark, h.busy, List.map_append]
      rfl
    · show ((d.calls ++ [Call.admitted id counts towers]).map Call.id).Nodup
      rw [List.map_append, List.nodup_append]
      refine ⟨h.nodup, List.nodup_singleton _, ?_⟩
      simpa [Call.id] using hnew

theorem marked_prepare (h : d.Marked) (place : Nat) : (d.prepare place).Marked := by
  unfold prepare
  split
  · next id counts towers hcall =>
    have hkept := keeps_busy_prepare id counts towers d.assistant
    rcases hprepare : Assistant.prepare id counts towers d.assistant with ⟨p, a⟩ | ⟨e, a⟩
    · rw [after_of_ok hprepare] at hkept
      exact h.replace hcall (prepare_frame hprepare).1 hkept
    · rw [after_of_error hprepare] at hkept
      exact h.release hcall hkept
  · exact h

theorem marked_answer (h : d.Marked) (place : Nat) (answer : Except GatewayError String) :
    (d.answer place answer).Marked := by
  unfold Desk.answer
  split
  · next p hcall =>
    have hkept := keeps_busy_conclude p answer d.assistant
    have hend : after (endSubmission p answer) d.assistant =
        (after (conclude p answer) d.assistant).unmark p.id := by
      unfold after endSubmission
      rcases conclude p answer d.assistant <;> rfl
    rw [hend]
    exact h.release hcall hkept
  · exact h

theorem marked_breakOff (h : d.Marked) (place : Nat) (left : Assistant) :
    (d.breakOff place left).Marked := by
  unfold breakOff
  split
  · next hcall => exact h.release hcall rfl
  · exact h

/-- **Every event preserves the marks.** -/
theorem marked_step (h : d.Marked) (event : Event) : (d.step event).Marked := by
  cases event with
  | arrive id counts towers => exact marked_arrive h id counts towers
  | prepare place => exact marked_prepare h place
  | answer place answer => exact marked_answer h place answer
  | breakOff place left => exact marked_breakOff h place left
  | create id edge => exact h.serve (keeps_busy_createSession id edge)
  | operate id o => exact h.serve (o.keeps_busy id)
  | inquire broker id q => exact h.serve (q.keeps_busy broker id)

/-- The marks are preserved through a run. -/
theorem marked_run (h : d.Marked) (events : List Event) : (d.run events).Marked := by
  induction events generalizing d with
  | nil => exact h
  | cons event events ih => exact ih (marked_step h event)

/-- The desk before the first call, with whatever sessions there are. -/
def idle (a : Assistant) : Desk := ⟨{ a with busy := [] }, []⟩

/-- **At any time, the sessions that are marked are those of the calls that are running**, and for
no session are there two of them, nor two calls of the gateway. A call that arrives is refused
while one of its session is running, without a change, and otherwise admitted; and once all calls
have ended there is no mark. -/
theorem marks_of_running (a : Assistant) (events : List Event) :
    let d := (idle a).run events
    (∀ id, d.assistant.isSubmitting id = true ↔ ∃ call ∈ d.calls, call.id = id) ∧
    (∀ m n : Nat, ∀ p q : Submission, d.calls[m]? = some (.calling p) →
      d.calls[n]? = some (.calling q) → p.id = q.id → m = n) ∧
    (d.calls.map Call.id).Nodup ∧
    (∀ id counts towers, (∃ call ∈ d.calls, call.id = id) →
      d.arrive id counts towers = d ∧
        beginSubmission id counts towers d.assistant = .error .submissionRunning d.assistant) ∧
    (∀ id counts towers, (¬∃ call ∈ d.calls, call.id = id) →
      (d.arrive id counts towers).calls = d.calls ++ [.admitted id counts towers]) ∧
    (d.calls = [] → d.assistant.busy = []) := by
  intro d
  have hidle : (idle a).Marked := ⟨rfl, List.nodup_nil⟩
  have h : d.Marked := marked_run hidle events
  refine ⟨h.isSubmitting_iff, ?_, h.nodup, ?_, ?_, ?_⟩
  · intro m n p q hp hq hid
    have hm : (d.calls.map Call.id)[m]? = some p.id := by simp [hp, Call.id]
    have hn : (d.calls.map Call.id)[n]? = some p.id := by simp [hq, hid, Call.id]
    obtain ⟨hlt, -⟩ := List.getElem?_eq_some_iff.mp hm
    exact (List.getElem?_inj hlt h.nodup).mp (hm.trans hn.symm)
  · intro id counts towers hrunning
    exact arrive_of_busy ((h.isSubmitting_iff id).mpr hrunning)
  · intro id counts towers hnone
    have hfree : d.assistant.isSubmitting id = false :=
      Bool.eq_false_iff.mpr fun hbusy => hnone ((h.isSubmitting_iff id).mp hbusy)
    rw [arrive_of_free hfree]
  · intro hnone
    rw [h.busy, hnone]
    rfl

end Desk

end Commissioning
