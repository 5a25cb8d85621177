import Commissioning.Proofs.Assistant.Submitting

/-!
# What an operation leaves alone

An operation **keeps** a part of the assistant (`Commissioning.Assistant.Keeps`) if that part is
the same after it, whatever comes of it. What is kept by two operations is kept by one after the
other, so it is enough to look at the few steps that change the assistant at all: writing a
session, moving the wizard, counting a submission, and putting a question to a device.

Two parts are followed here. The marks of sessions that are being submitted are kept by every
operation and by what a submission does between its first mark and its last
(`Commissioning.Operation.keeps_busy`, `Commissioning.Assistant.keeps_busy_prepare`,
`Commissioning.Assistant.keeps_busy_conclude`). An inquiry changes nothing but the live feed
(`Commissioning.Inquiry.keeps_unfed`).
-/

namespace Commissioning

namespace Assistant

variable {α β γ : Type}

/-- The assistant after an operation, whatever comes of it. -/
def after (m : AssistantM α) (a : Assistant) : Assistant :=
  match m a with
  | .ok _ a' => a'
  | .error _ a' => a'

theorem after_of_ok {m : AssistantM α} {a a' : Assistant} {x : α} (h : m a = .ok x a') :
    after m a = a' := by
  rw [after, h]

theorem after_of_error {m : AssistantM α} {a a' : Assistant} {e : AssistantError}
    (h : m a = .error e a') : after m a = a' := by
  rw [after, h]

/-- **An operation keeps a part of the assistant.** -/
def Keeps (part : Assistant → γ) (m : AssistantM α) : Prop :=
  ∀ a, part (after m a) = part a

variable {part : Assistant → γ}

/-! ### One after the other -/

theorem keeps_pure (x : α) : Keeps part (pure x : AssistantM α) := fun _ => rfl

theorem keeps_throw (e : AssistantError) : Keeps part (throw e : AssistantM α) := fun _ => rfl

theorem keeps_get : Keeps part (get : AssistantM Assistant) := fun _ => rfl

theorem keeps_modify {f : Assistant → Assistant} (hf : ∀ a, part (f a) = part a) :
    Keeps part (modify f : AssistantM Unit) := hf

theorem keeps_ofExcept {ε : Type} (wrap : ε → AssistantError) (x : Except ε α) :
    Keeps part (ofExcept wrap x) := by
  cases x with
  | ok x => exact keeps_pure x
  | error e => exact keeps_throw (wrap e)

/-- **What is kept by two operations** is kept by one after the other. -/
theorem keeps_bind {m : AssistantM α} {f : α → AssistantM β} (hm : Keeps part m)
    (hf : ∀ x, Keeps part (f x)) : Keeps part (m >>= f) := by
  intro a
  have hfirst := hm a
  rcases h : m a with ⟨x, a'⟩ | ⟨e, a'⟩
  · rw [after_of_ok h] at hfirst
    rw [after, bind_of_ok h]
    exact (hf x a').trans hfirst
  · rw [after_of_error h] at hfirst
    rw [after_of_error (bind_of_error h)]
    exact hfirst

theorem keeps_map {m : AssistantM α} (f : α → β) (hm : Keeps part m) : Keeps part (f <$> m) := by
  rw [map_eq_pure_bind]
  exact keeps_bind hm fun x => keeps_pure (f x)

/-- A condition says which of two operations is done. -/
theorem keeps_ite {c : Prop} [Decidable c] {m m' : AssistantM α} (hm : Keeps part m)
    (hm' : Keeps part m') : Keeps part (if c then m else m') := by
  split
  · exact hm
  · exact hm'

/-! ### Loading, saving, moving -/

theorem keeps_load (id : String) : Keeps part (load id) :=
  keeps_bind keeps_get fun _ => keeps_ite (keeps_ofExcept _ _) (keeps_throw _)

/-- Only the entries of sessions are written. -/
theorem keeps_save (hstore : ∀ (a : Assistant) store, part { a with store } = part a) (id : String)
    (s : Session) : Keeps part (save id s) := by
  intro a
  unfold after save
  rcases s.save id a.store with ⟨_, store⟩ | ⟨e, store⟩
  · exact hstore a store
  · exact hstore a store

/-- Only the entries of sessions and the number of finished ones follow the wizard. -/
theorem keeps_navigate
    (hmoved : ∀ (a : Assistant) store finishedCount,
      part { a with store, finishedCount } = part a)
    (id : String) (s : Session) (move : Navigator.Move) : Keeps part (navigate id s move) := by
  intro a
  unfold after navigate
  rcases move { session := s, id, store := a.store } with ⟨result, n⟩ | ⟨e, n⟩
  · exact hmoved a _ _
  · exact hmoved a _ _

/-! ### The marks -/

theorem keeps_busy_save (id : String) (s : Session) : Keeps busy (save id s) :=
  keeps_save (fun _ _ => rfl) id s

theorem keeps_busy_navigate (id : String) (s : Session) (move : Navigator.Move) :
    Keeps busy (navigate id s move) :=
  keeps_navigate (fun _ _ _ => rfl) id s move

theorem keeps_busy_createSession (id : String) (edge : Option Edge) :
    Keeps busy (createSession id edge) :=
  keeps_bind (keeps_busy_save id _) fun _ => keeps_pure _

theorem keeps_busy_selectSystem (id systemId : String) : Keeps busy (selectSystem id systemId) := by
  unfold selectSystem
  split
  · exact keeps_throw _
  · exact keeps_bind (keeps_load id) fun _ => keeps_ite (keeps_pure _) <|
      keeps_ite (keeps_throw _) <| keeps_bind (keeps_ofExcept _ _) fun _ =>
        keeps_bind (keeps_busy_save id _) fun _ => keeps_pure _

theorem keeps_busy_updateData (id : String) (patch : Members) :
    Keeps busy (updateData id patch) := by
  refine keeps_bind (keeps_load id) fun s => ?_
  refine keeps_ite (keeps_throw _) ?_
  dsimp only
  rcases Installation.ofMembers .value (Json.merge s.data.members patch) with data | issues
  · exact keeps_bind (keeps_busy_save id _) fun _ => keeps_pure _
  · exact keeps_throw _

theorem keeps_busy_advance (id : String) : Keeps busy (advance id) := by
  rw [advance_eq]
  exact keeps_bind (keeps_load id) fun s => keeps_bind (keeps_ofExcept _ _) fun _ =>
    keeps_busy_navigate id s _

/-- **A submission that is prepared** leaves the marks as they are. -/
theorem keeps_busy_prepare (id : String) (counts : Members) (towers : TowerValues) :
    Keeps busy (prepare id counts towers) := by
  refine keeps_bind (keeps_load id) fun s => keeps_bind (keeps_ofExcept _ _) fun view =>
    keeps_ite (keeps_throw _) ?_
  split
  · exact keeps_throw _
  · exact keeps_bind keeps_get fun _ => keeps_bind (keeps_ofExcept _ _) fun _ =>
      keeps_bind (keeps_busy_save id _) fun _ => keeps_bind (keeps_ofExcept _ _) fun _ =>
        keeps_pure _

theorem keeps_busy_settleAccount (s : Session) (answer : Except GatewayError String) :
    Keeps busy (settleAccount s answer) := by
  rcases answer with why | protocolId
  · cases why with
    | rejected status detail => exact keeps_bind (keeps_modify fun _ => rfl) fun _ => keeps_pure _
    | _ => exact keeps_throw _
  · exact keeps_bind (keeps_modify fun _ => rfl) fun _ => keeps_pure _

/-- **A submission that is concluded** leaves the marks as they are. -/
theorem keeps_busy_conclude (p : Submission) (answer : Except GatewayError String) :
    Keeps busy (conclude p answer) :=
  keeps_bind (keeps_busy_settleAccount p.session answer) fun x =>
    keeps_bind (keeps_busy_navigate p.id x.2 _) fun _ => keeps_pure _

end Assistant

open Assistant

/-- **An operation leaves the marks as they are.** -/
theorem Operation.keeps_busy (o : Operation) (id : String) :
    Keeps Assistant.busy (o.perform id) := by
  cases o with
  | inspect => exact keeps_map _ (keeps_load id)
  | abandon =>
    exact keeps_map _ (keeps_bind (keeps_load id) fun _ => keeps_modify fun _ => rfl)
  | bindEdge edge =>
    exact keeps_map _ (keeps_bind (keeps_load id) fun _ =>
      keeps_bind (keeps_busy_save id _) fun _ => keeps_pure _)
  | selectSystem systemId => exact keeps_map _ (keeps_busy_selectSystem id systemId)
  | updateData patch => exact keeps_map _ (keeps_busy_updateData id patch)
  | advance => exact keeps_map _ (keeps_busy_advance id)
  | retreat =>
    exact keeps_map _ (keeps_bind (keeps_load id) fun s => keeps_busy_navigate id s _)
  | jumpTo index =>
    exact keeps_map _ (keeps_bind (keeps_load id) fun s => keeps_busy_navigate id s _)

/-! ### Inquiries -/

/-- What can be asked about a session without changing it. -/
inductive Inquiry where
  /-- The form for the serial numbers. -/
  | form (towers modules : Option Int)
  /-- A preview of the setup protocol. -/
  | preview
  /-- The settings of the app. -/
  | payload (country : SafetyCountry) (setting : Option FeedInSetting)
  /-- The cell metrics. -/
  | cells

/-- What is answered to an inquiry. -/
inductive Finding where
  /-- The form for the serial numbers. -/
  | form (schema : SerialNumberSchema)
  /-- A preview of the setup protocol. -/
  | preview (protocol : SetupProtocol)
  /-- The settings of the app. -/
  | payload (payload : AppPayload)
  /-- The cell metrics. -/
  | cells (metrics : CellMetrics)

namespace Inquiry

/-- An inquiry as the assistant answers it. -/
def answer (broker : Broker) (id : String) : Inquiry → AssistantM Finding
  | .form towers modules => .form <$> serialNumberForm broker id towers modules
  | .preview => .preview <$> previewProtocol id
  | .payload country setting => .payload <$> appPayload id country setting
  | .cells => .cells <$> cellMetrics broker id

end Inquiry

namespace Assistant

/-- The assistant without its live feed. -/
def unfed (a : Assistant) : Assistant := { a with feed := none }

/-- A question to a device changes the live feed. -/
theorem keeps_unfed_ask (broker : Broker) (q : LiveQuestion) (edgeId : Option String) :
    Keeps unfed (ask broker q edgeId) := by
  intro a
  unfold after ask
  rcases hfeed : a.feed with _ | feed
  · rfl
  · simp only
    rcases q.ask (some (Feed.await broker [])) edgeId feed with ⟨x, feed⟩ | ⟨e, feed⟩
    · rfl
    · rfl

theorem keeps_unfed_proposedCounts (broker : Broker) (s : Session) (towers modules : Option Int) :
    Keeps unfed (proposedCounts broker s towers modules) := by
  unfold proposedCounts
  split
  · exact keeps_pure _
  · exact keeps_bind (keeps_unfed_ask broker _ _) fun _ => keeps_bind keeps_get fun _ =>
      keeps_ofExcept _ _

end Assistant

/-- **An inquiry changes nothing but the live feed.** -/
theorem Inquiry.keeps_unfed (q : Inquiry) (broker : Broker) (id : String) :
    Keeps unfed (q.answer broker id) := by
  cases q with
  | form towers modules =>
    exact keeps_map _ (keeps_bind (keeps_load id) fun s =>
      keeps_bind (keeps_unfed_proposedCounts broker s towers modules) fun _ => keeps_pure _)
  | preview => exact keeps_map _ (keeps_bind (keeps_load id) fun _ => keeps_ofExcept _ _)
  | payload country setting =>
    exact keeps_map _ (keeps_bind (keeps_load id) fun _ =>
      keeps_ite (keeps_throw _) (keeps_pure _))
  | cells =>
    exact keeps_map _ (keeps_bind (keeps_load id) fun _ =>
      keeps_bind (keeps_unfed_ask broker _ _) fun _ => keeps_pure _)

theorem Inquiry.keeps_busy (q : Inquiry) (broker : Broker) (id : String) :
    Keeps Assistant.busy (q.answer broker id) := by
  intro a
  have hunfed := congrArg Assistant.busy (q.keeps_unfed broker id a)
  exact hunfed

end Commissioning
