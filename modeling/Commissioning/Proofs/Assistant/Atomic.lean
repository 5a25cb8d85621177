import Commissioning.Proofs.Assistant.Frame

/-!
# What is left of what is declined

A demand is **declined** (`Commissioning.declined`) if it ends in an error, or is a move of the
wizard that is not made. Then the gateway has not been called, and the assistant is as it was, but
for one thing (`Commissioning.Demand.declined_leaves`): a device with a torn text is met only when
the rest of its session has been written (`Commissioning.Demand.residue`). For a device that is
bound to a session this changes nothing in an assistant that is reached
(`Commissioning.Assistant.Reached`), as the rest has been there before; but a session that is to be
created for it is there afterwards. The one error excepted is a failure of the gateway itself that
is no answer: it comes after the call.

An operation loads a session, checks, and writes; so there are two things to see. What is loaded
is sound, from whatever texts (`Commissioning.Session.sound_of_load`), and a session made of it
with no torn text either is written as a whole, or fails at its first text and leaves the store as
it was (`Commissioning.Assistant.atomic_save`). And nothing is checked after something has been
written: a sound session has a protocol, and once the gateway is called there is a view to move on
to, whatever has happened to the assistant in the meantime
(`Commissioning.Assistant.prepare_of_load`, `Commissioning.Assistant.conclude_submits`).
-/

namespace Commissioning

/-! ### Writing a session -/

theorem MemoryStore.set_of_get? {m : MemoryStore} {id key text : String}
    (h : m.get? id key = some text) : m.set id key text = m := by
  obtain ⟨sessions⟩ := m
  have hentries : Assoc.get? ((Assoc.get? sessions id).getD []) key = some text := h
  rcases hsession : Assoc.get? sessions id with _ | entries
  · rw [hsession] at hentries
    cases hentries
  · rw [hsession] at hentries
    rw [set, MemoryStore.entries, hsession, Option.getD_some,
      Assoc.put_of_get? (t := entries) hentries, Assoc.put_of_get? hsession]

/-- Writing what is there already changes nothing. -/
theorem SessionStore.set_of_get? {store : SessionStore} {id key text : String}
    (h : store.get? id key = some text) : store.set id key text = store := by
  cases store with
  | memory m => exact congrArg SessionStore.memory (MemoryStore.set_of_get? h)
  | rows t => exact congrArg (SessionStore.rows ∘ RowStore.mk) (Assoc.put_of_get? h)

theorem SessionStore.write_of_get? {id : String} {store : SessionStore}
    {texts : List (String × Except NumberError String)}
    (h : ∀ t ∈ texts, ∃ text, t.2 = .ok text ∧ store.get? id t.1 = some text) :
    SessionStore.write id texts store = .ok () store := by
  induction texts with
  | nil => rfl
  | cons t rest ih =>
    obtain ⟨key, made⟩ := t
    obtain ⟨text, rfl, htext⟩ : ∃ text, made = .ok text ∧ store.get? id key = some text :=
      h (key, made) List.mem_cons_self
    show SessionStore.write id rest (store.set id key text) = _
    rw [SessionStore.set_of_get? htext]
    exact ih fun t ht => h t (List.mem_cons_of_mem _ ht)

/-- Texts that can all be made are all written. -/
theorem SessionStore.exists_write (id : String)
    {texts : List (String × Except NumberError String)} (h : ∀ t ∈ texts, ∃ text, t.2 = .ok text)
    (store : SessionStore) : ∃ store', SessionStore.write id texts store = .ok () store' := by
  induction texts generalizing store with
  | nil => exact ⟨store, rfl⟩
  | cons t rest ih =>
    obtain ⟨key, made⟩ := t
    obtain ⟨text, rfl⟩ : ∃ text, made = .ok text := h (key, made) List.mem_cons_self
    exact ih (fun t ht => h t (List.mem_cons_of_mem _ ht)) (store.set id key text)

/-- A session with data that can be written is written, with its wizard near the views, unless a
text of its device is torn. -/
theorem Session.exists_save {s : Session} (hw : s.data.IsWritable)
    (hwhole : ∀ e ∈ s.edge, e.IsWhole) (hindex : -1 ≤ s.viewIndex ∧ s.viewIndex ≤ 17)
    (id : String) (store : SessionStore) : ∃ store', s.save id store = .ok () store' := by
  refine SessionStore.exists_write id ?_ store
  intro t ht
  rcases List.mem_append.mp ht with ht | ht
  · have ht' : t = (systemKey, s.systemDocument.text) ∨
        t = (viewIndexKey, Number.text (.int s.viewIndex)) := by
      simpa using ht
    rcases ht' with rfl | rfl
    · obtain ⟨text, htext⟩ := exists_write (isWritable_systemDocument.mpr hw)
      exact ⟨text, text_eq htext⟩
    · exact ⟨_, text_index hindex⟩
  · rcases hedge : s.edge with _ | e
    · simp [hedge] at ht
    · obtain ⟨text, -, htext⟩ := exists_text (hwhole e hedge)
      obtain rfl : t = (edgeKey, e.text) := by simpa [hedge] using ht
      exact ⟨text, htext⟩

/-- A session that is kept is written again without its device, and nothing is changed. -/
theorem Session.save_unbound_of_kept {s : Session} (h : s.Sound) {store : SessionStore}
    {id : String} (hkept : s.Kept (store.entries id)) :
    Session.save { s with edge := none } id store = .ok () store := by
  obtain ⟨text, htext⟩ := exists_write (isWritable_systemDocument.mpr h.writable)
  have hwritten : Session.written { s with edge := none } =
      [(systemKey, .ok text), (viewIndexKey, .ok (String.ofList (intChars s.viewIndex)))] := by
    rw [← text_eq htext, ← text_index h.index_near]
    rfl
  rw [save, hwritten]
  refine SessionStore.write_of_get? ?_
  simp only [List.forall_mem_cons, SessionStore.get?_eq_get?_entries]
  exact ⟨⟨text, rfl, hkept.system.trans htext⟩, ⟨_, rfl, hkept.index⟩, by rintro _ ⟨⟩⟩

namespace Assistant

variable {α β : Type} {d : α → Prop} {id : String} {a a' : Assistant} {s : Session}

/-- **An operation is atomic** in a state: it leaves the assistant as it is if there is an error,
or if what comes of it is declined. -/
def Atomic (d : α → Prop) (m : AssistantM α) (a : Assistant) : Prop :=
  match m a with
  | .ok x a' => d x → a' = a
  | .error _ a' => a' = a

/-- For an operation of which nothing is declined but by an error. -/
def Never : α → Prop := fun _ => False

/-! ### One after the other -/

theorem atomic_of_ok {m : AssistantM α} {x : α} (h : m a = .ok x a') (hx : d x → a' = a) :
    Atomic d m a := by
  rw [Atomic, h]
  exact hx

theorem atomic_of_error {m : AssistantM α} {e : AssistantError} (h : m a = .error e a) :
    Atomic d m a := by
  rw [Atomic, h]

theorem Atomic.eq_of_error {m : AssistantM α} {e : AssistantError} (h : Atomic d m a)
    (hm : m a = .error e a') : a' = a := by
  rw [Atomic, hm] at h
  exact h

theorem Atomic.eq_of_ok {m : AssistantM α} {x : α} (h : Atomic d m a) (hm : m a = .ok x a')
    (hx : d x) : a' = a := by
  rw [Atomic, hm] at h
  exact h hx

theorem atomic_pure (x : α) : Atomic d (pure x : AssistantM α) a := fun _ => rfl

theorem atomic_throw (e : AssistantError) : Atomic d (throw e : AssistantM α) a := rfl

theorem atomic_map {m : AssistantM β} {f : β → α} (h : Atomic (fun x => d (f x)) m a) :
    Atomic d (f <$> m) a := by
  rw [map_eq_pure_bind]
  rcases hm : m a with ⟨x, a'⟩ | ⟨e, a'⟩
  · exact atomic_of_ok (bind_of_ok hm) (h.eq_of_ok hm)
  · rw [Atomic, bind_of_error hm]
    exact h.eq_of_error hm

/-- After a step that changes nothing it is the rest that counts. -/
theorem atomic_bind {m : AssistantM β} {f : β → AssistantM α}
    (hm : ∀ e a', m a = .error e a' → a' = a)
    (hf : ∀ x a', m a = .ok x a' → a' = a ∧ Atomic d (f x) a) : Atomic d (m >>= f) a := by
  rcases h : m a with ⟨x, a'⟩ | ⟨e, a'⟩
  · obtain ⟨rfl, hrest⟩ := hf x a' h
    rw [Atomic, bind_of_ok h]
    exact hrest
  · rw [Atomic, bind_of_error h]
    exact hm e a' h

theorem atomic_ofExcept_bind {ε : Type} {wrap : ε → AssistantError} {x : Except ε β}
    {f : β → AssistantM α} (hf : ∀ y, x = .ok y → Atomic d (f y) a) :
    Atomic d (ofExcept wrap x >>= f) a := by
  cases x with
  | ok y => exact hf y rfl
  | error e => exact atomic_throw (wrap e)

theorem eq_of_load_error {e : AssistantError} (h : load id a = .error e a') : a' = a := by
  have hkept : Keeps (fun b => b) (load id) := keeps_load id
  have hafter := hkept a
  rwa [after_of_error h] at hafter

theorem atomic_load {d : Session → Prop} (id : String) : Atomic d (load id) a := by
  rcases h : load id a with ⟨s, a'⟩ | ⟨e, a'⟩
  · exact atomic_of_ok h fun _ => (load_eq_ok_iff.mp h).2
  · rw [Atomic, h]
    exact eq_of_load_error h

/-- **What is loaded is sound.** -/
theorem atomic_load_bind {f : Session → AssistantM α}
    (hf : ∀ s, load id a = .ok s a → s.Sound → Atomic d (f s) a) :
    Atomic d (load id >>= f) a := by
  refine atomic_bind (fun e a' => eq_of_load_error) fun s a' h => ?_
  obtain ⟨hentries, rfl⟩ := load_eq_ok_iff.mp h
  exact ⟨rfl, hf s h (Session.sound_of_load hentries.2)⟩

/-! ### Writing and moving -/

/-- **A session is written as a whole or not at all**, unless a text of its device is torn. -/
theorem atomic_save (hwhole : ∀ e ∈ s.edge, e.IsWhole)
    (hindex : -1 ≤ s.viewIndex ∧ s.viewIndex ≤ 17) (x : α) :
    Atomic Never (do save id s; return x) a := by
  by_cases hw : s.data.IsWritable
  · obtain ⟨store, hstore⟩ := Session.exists_save hw hwhole hindex id a.store
    have hsave : save id s a = .ok () (a.withStore store) := by
      rw [save, hstore]
      rfl
    exact atomic_of_ok (bind_of_ok hsave) False.elim
  · have hsave : save id s a = .error (.unwritable .tooManyDigits) a := by
      rw [save, Session.save_of_not_writable hw]
    exact atomic_of_error (bind_of_error hsave)

/-- A move that is answered with its refusal. -/
def Unmoved (r : NavigationResult × Session) : Prop := r.1.accepted = false

/-- A move that is made is written. -/
theorem atomic_navigate_of_persist {move : Navigator.Move} {index : Int}
    (hs : (s.movedTo index).Sound)
    (hmove : ∀ store', (s.movedTo index).save id a.store = .ok () store' →
      move { session := s, id, store := a.store } = .ok (Navigator.madeTo index)
        { session := s.movedTo index, id, store := store' }) :
    Atomic Unmoved (navigate id s move) a := by
  obtain ⟨store', hsave⟩ := Session.exists_save hs.writable hs.whole hs.index_near id a.store
  refine atomic_of_ok (navigate_of_ok (hmove store' hsave)) fun hunmoved => ?_
  cases hunmoved

theorem atomic_navigate_advance (hs : s.Sound) :
    Atomic Unmoved (navigate id s Navigator.advance) a := by
  have hnonneg := hs.index_nonneg
  have hlt := hs.index_lt
  by_cases hnext : s.viewIndex + 1 < s.viewCount
  · exact atomic_navigate_of_persist (hs.movedTo (by omega) hnext) fun store' hsave =>
      Navigator.advance_of_lt hs hnext hsave
  · have hlast : Navigator.advance { session := s, id, store := a.store } = _ :=
      Navigator.advance_of_eq hs (by omega)
    refine atomic_of_ok (navigate_of_ok hlast) fun hunmoved => ?_
    cases hunmoved

theorem atomic_navigate_retreat (hs : s.Sound) :
    Atomic Unmoved (navigate id s Navigator.retreat) a := by
  have hlt := hs.index_lt
  by_cases hpos : 0 < s.viewIndex
  · exact atomic_navigate_of_persist (hs.movedTo (by omega) (by omega)) fun store' hsave =>
      Navigator.retreat_of_pos hs hpos hsave
  · exact atomic_of_error (navigate_of_error (Navigator.retreat_of_nonpos hs hpos))

/-- A jump out of the views is answered, or fails where there is no view to stay at. -/
theorem atomic_navigate_jumpTo (hs : s.Sound) (index : Int) :
    Atomic Unmoved (navigate id s (Navigator.jumpTo index)) a := by
  by_cases hindex : 0 ≤ index ∧ index < s.viewCount
  · exact atomic_navigate_of_persist (hs.movedTo hindex.1 hindex.2) fun store' hsave =>
      Navigator.jumpTo_of_mem hs hindex hsave
  · have hmove : Navigator.jumpTo index { session := s, id, store := a.store } = _ :=
      Navigator.jumpTo_of_not_mem hindex
    rcases hr : Navigator.rejectedAt s index with e | result
    · rw [hr] at hmove
      exact atomic_of_error (navigate_of_error hmove)
    · rw [hr] at hmove
      exact atomic_of_ok (navigate_of_ok hmove) fun _ => rfl

/-! ### Operations -/

theorem atomic_createSession (id : String) {edge : Option Edge} (hwhole : ∀ e ∈ edge, e.IsWhole) :
    Atomic Never (createSession id edge) a :=
  atomic_save hwhole (show -1 ≤ (0 : Int) ∧ (0 : Int) ≤ 17 by omega) _

theorem atomic_abandonSession (id : String) :
    Atomic Never (abandonSession id) a :=
  atomic_load_bind fun _ _ _ => atomic_of_ok rfl False.elim

theorem atomic_bindEdge (id : String) {edge : Edge} (hwhole : edge.IsWhole) :
    Atomic Never (bindEdge id edge) a := by
  refine atomic_load_bind fun s _ hs => ?_
  exact atomic_save (s := { s with edge := some edge }) (by rintro _ ⟨⟩; exact hwhole)
    hs.index_near _

theorem atomic_selectSystem (id systemId : String) :
    Atomic Never (selectSystem id systemId) a := by
  unfold selectSystem
  split
  · exact atomic_throw _
  refine atomic_load_bind fun s _ hs => ?_
  split
  · exact atomic_pure s
  split
  · exact atomic_throw _
  refine atomic_ofExcept_bind fun s' hs' => ?_
  have hsound := (sound_of_withSystem hs hs').1
  exact atomic_save hsound.whole hsound.index_near _

theorem atomic_updateData (id : String) (patch : Members) :
    Atomic Never (updateData id patch) a := by
  refine atomic_load_bind fun s _ hs => ?_
  by_cases hdeep : patchLimit < (Json.obj patch).height
  · simp only [if_pos hdeep]
    exact atomic_throw _
  simp only [if_neg hdeep]
  rcases Installation.ofMembers .value (Json.merge s.data.members patch) with data | issues
  · exact atomic_save (s := { s with data }) hs.whole hs.index_near _
  · exact atomic_throw _

theorem atomic_advance (id : String) : Atomic Unmoved (advance id) a := by
  rw [advance_eq]
  exact atomic_load_bind fun _ _ hs => atomic_ofExcept_bind fun _ _ => atomic_navigate_advance hs

theorem atomic_retreat (id : String) : Atomic Unmoved (retreat id) a :=
  atomic_load_bind fun _ _ hs => atomic_navigate_retreat hs

theorem atomic_jumpTo (id : String) (index : Int) : Atomic Unmoved (jumpTo id index) a :=
  atomic_load_bind fun _ _ hs => atomic_navigate_jumpTo hs index

/-! ### Devices with a torn text -/

/-- Writes a session again, but for its device. -/
def rewrite (id : String) : AssistantM Unit := do
  let s ← load id
  save id { s with edge := none }

theorem exists_save_fresh (id : String) (a : Assistant) :
    ∃ store, save id {} a = .ok () (a.withStore store) := by
  obtain ⟨store, hstore⟩ := Session.exists_save (s := {}) Installation.isWritable_default
    (by rintro _ ⟨⟩) ⟨by decide, by decide⟩ id a.store
  refine ⟨store, ?_⟩
  rw [save, hstore]
  rfl

/-- **A session is created by half** for a device with a torn text. -/
theorem createSession_of_torn (id : String) {edge : Edge} (h : ¬edge.IsWhole) :
    ∃ e, createSession id (some edge) a = .error e (after (createSession id none) a) := by
  obtain ⟨t, ht⟩ := Option.ne_none_iff_exists'.mp h
  obtain ⟨store, hsave⟩ := exists_save_fresh id a
  have hbare : createSession id none a = .ok {} (a.withStore store) := bind_of_ok hsave
  rw [after_of_ok hbare]
  exact ⟨_, bind_of_error (save_of_torn { edge := some edge } rfl ht hsave)⟩

/-- Binding a device with a torn text writes the session again, but for its device. -/
theorem bindEdge_of_torn (id : String) {edge : Edge} (h : ¬edge.IsWhole) :
    ∃ e, bindEdge id edge a = .error e (after (rewrite id) a) := by
  obtain ⟨t, ht⟩ := Option.ne_none_iff_exists'.mp h
  rcases hload : load id a with ⟨s, a'⟩ | ⟨e, a'⟩
  · obtain ⟨hentries, rfl⟩ := load_eq_ok_iff.mp hload
    have hs := (Session.sound_of_load hentries.2).unbound
    obtain ⟨store, hstore⟩ := Session.exists_save hs.writable hs.whole hs.index_near id a'.store
    have hsave : save id { s with edge := none } a' = .ok () (a'.withStore store) := by
      rw [save, hstore]
      rfl
    have hrewrite : rewrite id a' = .ok () (a'.withStore store) := (bind_of_ok hload).trans hsave
    rw [after_of_ok hrewrite]
    have htorn : save id { s with edge := some edge } a' = _ :=
      save_of_torn { s with edge := some edge } rfl ht hsave
    exact ⟨_, (bind_of_ok hload).trans (bind_of_error htorn)⟩
  · have hrewrite : rewrite id a = .error e a' := bind_of_error hload
    rw [after_of_error hrewrite]
    exact ⟨e, bind_of_error hload⟩

/-- Where a session is held, writing it again changes nothing. -/
theorem after_rewrite {r : Option Session} (h : a.store.Holds id r) :
    after (rewrite id) a = a := by
  rcases r with _ | s
  · exact after_of_error (bind_of_error (load_of_not_holds h))
  · have hsave : save id { s with edge := none } a = .ok () a := by
      rw [save, Session.save_unbound_of_kept h.1 h.2]
    exact after_of_ok ((bind_of_ok (load_of_holds h)).trans hsave)

/-! ### The first half of a submission -/

/-- **The first half of a submission**, by the session that is loaded: either the submission is
refused and nothing is changed, or the session is written with its serial numbers. -/
theorem prepare_of_load (hload : load id a = .ok s a) (hs : s.Sound) (counts : Members)
    (towers : TowerValues) :
    match s.submission id a.settings.fallbackDefaults counts towers with
    | .error e => prepare id counts towers a = .error e a
    | .ok p => ∃ store, prepare id counts towers a = .ok p (a.withStore store) ∧
        SessionStore.Written id p.session a.store store := by
  unfold prepare Session.submission
  rw [bind_of_ok hload]
  rcases s.currentView with e | view
  · rfl
  simp only
  rw [bind_of_ok (show ofExcept .noView (.ok view) a = .ok view a from rfl)]
  by_cases hview : view = some .protocolSerialNumbers
  · simp only [hview, ne_eq, not_true_eq_false, if_false]
    rcases hedge : s.edge with _ | edge
    · rfl
    simp only
    rw [bind_of_ok (show (get : AssistantM Assistant) a = .ok a a from rfl)]
    rcases acceptForm s.system a.settings.fallbackDefaults counts towers with e | numbers
    · rfl
    have hs' := hs.withSerialNumbers numbers
    obtain ⟨protocol, hprotocol⟩ := Installation.exists_protocol hs'.writable edge.id
    obtain ⟨store, hsave, hwritten⟩ := save_of_edge id a hs' (by
      rw [show (s.withSerialNumbers numbers).edge = s.edge from rfl, hedge]
      exact Option.some_ne_none edge)
    simp only [hprotocol]
    rw [bind_of_ok (show ofExcept (fun e => e) (.ok numbers) a = .ok numbers a from rfl),
      bind_of_ok hsave]
    refine ⟨store, ?_, hwritten⟩
    rw [hprotocol]
    rfl
  · simp only [ne_eq, hview, not_false_eq_true, if_true]
    rfl

/-- **What the first half can do**: fail and change nothing, or get a submission ready. -/
theorem prepare_cases (id : String) (counts : Members) (towers : TowerValues) (a : Assistant) :
    (∃ e, prepare id counts towers a = .error e a) ∨
      ∃ p store, prepare id counts towers a = .ok p (a.withStore store) ∧ p.IsReady id := by
  rcases hload : load id a with ⟨s, a'⟩ | ⟨e, a'⟩
  · obtain ⟨hentries, rfl⟩ := load_eq_ok_iff.mp hload
    have hs : s.Sound := Session.sound_of_load hentries.2
    have hprepare := prepare_of_load hload hs counts towers
    rcases hsubmission : s.submission id a'.settings.fallbackDefaults counts towers with e | p
    · rw [hsubmission] at hprepare
      exact Or.inl ⟨e, hprepare⟩
    · rw [hsubmission] at hprepare
      obtain ⟨store, hok, -⟩ := hprepare
      exact Or.inr ⟨p, store, hok, Session.isReady_of_submission hs hsubmission⟩
  · obtain rfl := eq_of_load_error hload
    exact Or.inl ⟨e, bind_of_error hload⟩

/-- A mark that was not set before leaves nothing behind. -/
theorem unmark_mark (hfree : a.isSubmitting id = false) : (a.mark id).unmark id = a := by
  have hnot : id ∉ a.busy := by
    simpa [isSubmitting] using hfree
  have hfilter : a.busy.filter (· != id) = a.busy := by
    rw [List.filter_eq_self]
    rintro other hother
    have hne : other ≠ id := by
      rintro rfl
      exact hnot hother
    simpa using hne
  have hbusy : (a.busy ++ [id]).filter (· != id) = a.busy := by
    simp [List.filter_append, hfilter]
  have hmark : a.mark id = { a with busy := a.busy ++ [id] } := by
    rw [mark, show a.busy.contains id = false from hfree]
    rfl
  rw [hmark, unmark]
  simp only [hbusy]

/-- **The first half, its mark included**: it fails and changes nothing, or gets a submission
ready. -/
theorem beginSubmission_cases (id : String) (counts : Members) (towers : TowerValues)
    (a : Assistant) :
    (∃ e, beginSubmission id counts towers a = .error e a) ∨
      ∃ p a', beginSubmission id counts towers a = .ok p a' ∧ p.IsReady id := by
  cases hfree : a.isSubmitting id with
  | true => exact Or.inl ⟨.submissionRunning, by rw [beginSubmission, hfree, if_pos rfl]⟩
  | false =>
    rcases prepare_cases id counts towers (a.mark id) with ⟨e, herror⟩ | ⟨p, store, hok, hready⟩
    · refine Or.inl ⟨e, ?_⟩
      rw [beginSubmission, hfree, herror, if_neg Bool.false_ne_true]
      simp only [unmark_mark hfree]
    · exact Or.inr ⟨p, _, beginSubmission_of_prepare hfree hok, hready⟩

/-! ### A submission amid other requests -/

/-- **A submission amid other requests.** Whatever the call of the gateway is, it may do anything
to the assistant as well, since other requests go on in the meantime. -/
def submitAmid {σ : Type}
    (call : SetupProtocol → Assistant × σ → Except GatewayError String × Assistant × σ)
    (id : String) (counts : Members) (towers : TowerValues) (a : Assistant) (outside : σ) :
    Except AssistantError SubmissionResult × Assistant × σ :=
  match beginSubmission id counts towers a with
  | .error e a => (.error e, a, outside)
  | .ok p a =>
    match endSubmission p (call p.protocol (a, outside)).1 (call p.protocol (a, outside)).2.1 with
    | .ok result a => (.ok result, a, (call p.protocol (a, outside)).2.2)
    | .error e a => (.error e, a, (call p.protocol (a, outside)).2.2)

/-- With nothing going on in the meantime it is a submission from end to end. -/
theorem submit_eq_submitAmid {σ : Type}
    (call : SetupProtocol → σ → Except GatewayError String × σ) (id : String) (counts : Members)
    (towers : TowerValues) (a : Assistant) (g : σ) :
    submit call id counts towers a g =
      submitAmid (fun protocol w => ((call protocol w.2).1, w.1, (call protocol w.2).2))
        id counts towers a g := rfl

/-- **The second half never fails** after an orderly answer, whatever the assistant is by then. -/
theorem endSubmission_of_orderly {p : Submission} (hp : p.IsReady id)
    {answer : Except GatewayError String} (horderly : (Act.conclude answer).Orderly)
    (a : Assistant) : ∃ result a', endSubmission p answer a = .ok result a' := by
  obtain ⟨store, hconclude, -⟩ := conclude_submits a hp horderly
  exact ⟨_, _, endSubmission_of_conclude hconclude⟩

/-! ### Where turns lead -/

/-- **An assistant that is reached**, from one without sessions and by any turns. The live feed may
be any, since no turn touches it. -/
def Reached (a : Assistant) : Prop :=
  ∃ settings gateway feed kind turns, Proper turns ∧
    ((Traffic.start settings gateway feed kind).run turns).2.assistant = a

/-- What is reached holds its sessions. -/
theorem Reached.exists_holds (h : a.Reached) (id : String) : ∃ r, a.store.Holds id r := by
  obtain ⟨settings, gateway, feed, kind, turns, hproper, rfl⟩ := h
  obtain ⟨-, hfollows, -⟩ := Traffic.run_follows settings gateway feed kind hproper
  exact ⟨_, hfollows.held id⟩

end Assistant

/-! ### Demands -/

/-- All that can be asked of the assistant about the session of an identifier. -/
inductive Demand where
  /-- Create the session. -/
  | create (edge : Option Edge)
  /-- Do something with the session. -/
  | operate (o : Operation)
  /-- Ask something about the session. -/
  | inquire (q : Inquiry)
  /-- Submit the serial numbers of the session. -/
  | submit (counts : Members) (towers : TowerValues)

/-- What comes of a demand. -/
inductive Answer where
  /-- The reply to an act. -/
  | reply (r : Reply)
  /-- What is answered to an inquiry. -/
  | finding (f : Finding)

/-- Whether a demand is declined: by an error, or as a move that is not made. -/
def declined : Except AssistantError Answer → Bool
  | .error _ => true
  | .ok (.reply (.moved result _)) => !result.accepted
  | .ok _ => false

namespace Demand

open Assistant

variable {σ : Type}
  {call : SetupProtocol → Assistant × σ → Except GatewayError String × Assistant × σ}
  {broker : Broker} {id : String} {a : Assistant} {outside : σ}

/-- An operation that has nothing to do with the gateway. -/
def serve (m : AssistantM Answer) (a : Assistant) (outside : σ) :
    Except AssistantError Answer × Assistant × σ :=
  match m a with
  | .ok x a => (.ok x, a, outside)
  | .error e a => (.error e, a, outside)

/-- **A demand**, as the assistant meets it. -/
def run (call : SetupProtocol → Assistant × σ → Except GatewayError String × Assistant × σ)
    (broker : Broker) (id : String) (a : Assistant) (outside : σ) :
    Demand → Except AssistantError Answer × Assistant × σ
  | .create edge => serve (.reply <$> Reply.session <$> createSession id edge) a outside
  | .operate o => serve (.reply <$> o.perform id) a outside
  | .inquire q => serve (.finding <$> q.answer broker id) a outside
  | .submit counts towers =>
    ((submitAmid call id counts towers a outside).1.map fun r => .reply (.submitted r),
      (submitAmid call id counts towers a outside).2)

/-- The gateway is called and gives no answer: it fails in no orderly way. -/
def Unanswered (call : SetupProtocol → Assistant × σ → Except GatewayError String × Assistant × σ)
    (id : String) (a : Assistant) (outside : σ) : Demand → Prop
  | .submit counts towers => ∃ p a', beginSubmission id counts towers a = .ok p a' ∧
      ¬(Act.conclude (call p.protocol (a', outside)).1).Orderly
  | _ => False

theorem eq_of_unfed {a a' : Assistant} (h : a'.unfed = a.unfed) :
    a' = { a with feed := a'.feed } := by
  obtain ⟨settings, store, gateway, feed, busy, submitted, failed, finished⟩ := a
  obtain ⟨settings', store', gateway', feed', busy', submitted', failed', finished'⟩ := a'
  simp only [unfed, Assistant.mk.injEq] at h
  simp only [h]

/-- What is outside is called by submissions only. -/
theorem outside_serve (m : AssistantM Answer) : (serve m a outside).2.2 = outside := by
  unfold serve
  split <;> rfl

theorem assistant_serve (m : AssistantM Answer) : (serve m a outside).2.1 = after m a := by
  unfold serve after
  rcases m a <;> rfl

/-- An operation that fails. -/
theorem serve_of_error {α : Type} {m : AssistantM α} {e : AssistantError} {a' : Assistant}
    (h : m a = .error e a') (f : α → Reply) :
    serve (Answer.reply <$> f <$> m) a outside = (.error e, a', outside) := by
  have hmap : (Answer.reply <$> f <$> m) a = .error e a' := by
    rw [map_eq_pure_bind, map_eq_pure_bind]
    exact bind_of_error (bind_of_error h)
  rw [serve, hmap]

theorem unfed_inquire (q : Inquiry) :
    (serve (Answer.finding <$> q.answer broker id) a outside).2.1.unfed = a.unfed := by
  rw [assistant_serve]
  exact keeps_map Answer.finding (q.keeps_unfed broker id) a

/-- A demand that is served by an atomic operation. -/
theorem serve_of_atomic {m : AssistantM Answer}
    (h : Atomic (fun x => declined (.ok x) = true) m a)
    (hdeclined : declined (serve m a outside).1 = true) : serve m a outside =
      ((serve m a outside).1, a, outside) := by
  unfold serve at hdeclined ⊢
  rcases hm : m a with ⟨x, a'⟩ | ⟨e, a'⟩
  · rw [hm] at hdeclined
    obtain rfl := h.eq_of_ok hm hdeclined
    rfl
  · obtain rfl := h.eq_of_error hm
    rfl

/-- A reply that is no move is never declined. -/
theorem atomic_reply {α : Type} {m : AssistantM α} {f : α → Reply}
    (hf : ∀ x, declined (.ok (.reply (f x))) = false) (hm : Atomic Never m a) :
    Atomic (fun x => declined (.ok x) = true) (Answer.reply <$> f <$> m) a := by
  have hnever : (fun x => declined (.ok (.reply (f x))) = true) = Never := by
    funext x
    simp [hf x, Never]
  exact atomic_map (atomic_map (hnever ▸ hm))

/-- A move is declined if its answer says that it is not made. -/
theorem atomic_move {m : AssistantM (NavigationResult × Session)} (hm : Atomic Unmoved m a) :
    Atomic (fun x => declined (.ok x) = true) (Answer.reply <$> (fun r => .moved r.1 r.2) <$> m)
      a := by
  have hunmoved : (fun r : NavigationResult × Session =>
      declined (.ok (.reply (.moved r.1 r.2))) = true) = Unmoved := by
    funext r
    simp [declined, Unmoved]
  exact atomic_map (atomic_map (hunmoved ▸ hm))

/-- **An operation is atomic**, unless it is to bind a device with a torn text. -/
theorem atomic_perform {o : Operation} (ho : ∀ edge, o = .bindEdge edge → edge.IsWhole)
    (id : String) :
    Atomic (fun x => declined (.ok x) = true) (Answer.reply <$> o.perform id) a := by
  cases o with
  | inspect => exact atomic_reply (fun _ => rfl) (atomic_load id)
  | abandon => exact atomic_reply (fun _ => rfl) (atomic_abandonSession id)
  | bindEdge edge => exact atomic_reply (fun _ => rfl) (atomic_bindEdge id (ho edge rfl))
  | selectSystem systemId =>
    exact atomic_reply (fun _ => rfl) (atomic_selectSystem id systemId)
  | updateData patch =>
    exact atomic_reply (fun _ => rfl) (atomic_updateData id patch)
  | advance => exact atomic_move (atomic_advance id)
  | retreat => exact atomic_move (atomic_retreat id)
  | jumpTo index => exact atomic_move (atomic_jumpTo id index)

/-- A submission fails in its first half, or for want of an answer. -/
theorem submitAmid_error {counts : Members} {towers : TowerValues} {e : AssistantError}
    (h : (submitAmid call id counts towers a outside).1 = .error e)
    (hanswered : ¬(submit counts towers).Unanswered call id a outside) :
    (submitAmid call id counts towers a outside).2 = (a, outside) := by
  rcases beginSubmission_cases id counts towers a with ⟨e', hbegin⟩ | ⟨p, a', hbegin, hready⟩
  · rw [submitAmid, hbegin]
  · have horderly : (Act.conclude (call p.protocol (a', outside)).1).Orderly :=
      Classical.not_not.mp fun hnot => hanswered ⟨p, a', hbegin, hnot⟩
    obtain ⟨result, a'', hend⟩ :=
      endSubmission_of_orderly hready horderly (call p.protocol (a', outside)).2.1
    simp only [submitAmid, hbegin, hend] at h
    cases h

/-! ### What is left -/

/-- A session is to be created for a device with a torn text. -/
def IsTornCreation : Demand → Prop
  | .create (some edge) => ¬edge.IsWhole
  | _ => False

theorem exists_of_isTornCreation {demand : Demand} (h : demand.IsTornCreation) :
    ∃ edge, demand = .create (some edge) ∧ ¬edge.IsWhole := by
  cases demand with
  | create edge =>
    cases edge with
    | none => cases h
    | some edge => exact ⟨edge, rfl, h⟩
  | _ => cases h

/-- **What is left of a demand that is declined**: what there was, but for a device with a torn
text. Then it is as if the session had been created without a device, or had been written again,
but for its device. -/
def residue (id : String) (a : Assistant) : Demand → Assistant
  | .create (some edge) => if edge.IsWhole then a else after (createSession id none) a
  | .operate (.bindEdge edge) => if edge.IsWhole then a else after (rewrite id) a
  | _ => a

theorem residue_operate {o : Operation} (ho : ∀ edge, o = .bindEdge edge → edge.IsWhole) :
    (operate o).residue id a = a := by
  cases o with
  | bindEdge edge => exact if_pos (ho edge rfl)
  | _ => rfl

/-- Where sessions are held, **nothing is left** of a demand that is declined, unless a session is
to be created for a device with a torn text. -/
theorem residue_of_holds {r : Option Session} (h : a.store.Holds id r) {demand : Demand}
    (hdemand : ¬demand.IsTornCreation) : demand.residue id a = a := by
  cases demand with
  | create edge =>
    rcases edge with _ | edge
    · rfl
    · exact if_pos (Classical.not_not.mp hdemand)
  | operate o =>
    cases o with
    | bindEdge edge => exact ite_eq_left_iff.mpr fun _ => after_rewrite h
    | _ => rfl
  | inquire q => rfl
  | submit counts towers => rfl

/-- What is left of a session that is created by half is a fresh one without a device. -/
theorem residue_of_tornCreation (h : a.store.Holds id none) {demand : Demand}
    (hdemand : demand.IsTornCreation) :
    Turned id (some {}) 0 a (demand.residue id a) ∧
      demand.residue id a = a.withStore (demand.residue id a).store := by
  obtain ⟨edge, rfl, hedge⟩ := exists_of_isTornCreation hdemand
  obtain ⟨a', hcreate, hturned⟩ : Yields (createSession id none) id a (.ok {}) (some {}) 0 :=
    yields_createSession h (by rintro _ ⟨⟩)
  obtain ⟨store, hsave⟩ := exists_save_fresh id a
  obtain rfl : a.withStore store = a' := by
    have hbare : createSession id none a = .ok {} (a.withStore store) := bind_of_ok hsave
    rw [← after_of_ok hbare, after_of_ok hcreate]
  have hresidue : (create (some edge)).residue id a = a.withStore store :=
    (if_neg hedge).trans (after_of_ok hcreate)
  rw [hresidue]
  exact ⟨hturned, rfl⟩

/-- A demand for a device with a torn text fails, and leaves its residue. -/
theorem run_of_torn {demand : Demand} {edge : Edge} (hedge : ¬edge.IsWhole)
    (hdemand : demand = .create (some edge) ∨ demand = .operate (.bindEdge edge)) :
    (demand.run call broker id a outside).2 = (demand.residue id a, outside) := by
  rcases hdemand with rfl | rfl
  · obtain ⟨e, hcreate⟩ := createSession_of_torn (a := a) id hedge
    rw [run, serve_of_error hcreate, residue, if_neg hedge]
  · obtain ⟨e, hbind⟩ := bindEdge_of_torn (a := a) id hedge
    rw [run, Operation.perform, serve_of_error hbind, residue, if_neg hedge]

/-- A demand that is declined calls nothing and leaves its residue, but for the live feed. -/
theorem run_of_declined {demand : Demand}
    (hdeclined : declined (demand.run call broker id a outside).1 = true)
    (hanswered : ¬demand.Unanswered call id a outside) :
    (demand.run call broker id a outside).2.1 =
        { demand.residue id a with feed := (demand.run call broker id a outside).2.1.feed } ∧
      (demand.run call broker id a outside).2.2 = outside := by
  cases demand with
  | create edge =>
    by_cases hwhole : ∀ e ∈ edge, e.IsWhole
    · have hatomic : Atomic (fun x => declined (.ok x) = true)
          (Answer.reply <$> Reply.session <$> createSession id edge) a :=
        atomic_reply (fun _ => rfl) (atomic_createSession id hwhole)
      have hresidue : (create edge).residue id a = a := by
        rcases edge with _ | edge
        · rfl
        · exact if_pos (hwhole edge rfl)
      rw [run, serve_of_atomic hatomic hdeclined, hresidue]
      exact ⟨rfl, rfl⟩
    · obtain ⟨edge, rfl, hedge⟩ : ∃ e, edge = some e ∧ ¬e.IsWhole := by
        simpa using hwhole
      rw [run_of_torn hedge (Or.inl rfl)]
      exact ⟨rfl, rfl⟩
  | operate o =>
    by_cases ho : ∀ edge, o = .bindEdge edge → edge.IsWhole
    · rw [run, serve_of_atomic (atomic_perform ho id) hdeclined, residue_operate ho]
      exact ⟨rfl, rfl⟩
    · obtain ⟨edge, rfl, hedge⟩ : ∃ e, o = .bindEdge e ∧ ¬e.IsWhole := by
        simpa using ho
      rw [run_of_torn hedge (Or.inr rfl)]
      exact ⟨rfl, rfl⟩
  | inquire q => exact ⟨eq_of_unfed (unfed_inquire q), outside_serve _⟩
  | submit counts towers =>
    rcases hresult : (submitAmid call id counts towers a outside).1 with e | result
    · have huntouched := submitAmid_error hresult hanswered
      rw [run, huntouched]
      exact ⟨rfl, rfl⟩
    · rw [run, hresult] at hdeclined
      cases hdeclined

/-- **What is left of a demand that is declined.** What is outside of the assistant has not been
called, and all of the assistant but its live feed is what the demand leaves. In an assistant that
is reached this is what there was; only where a session was to be created for a device with a torn
text, there is a fresh session more, without a device. -/
theorem declined_leaves (call : SetupProtocol → Assistant × σ →
      Except GatewayError String × Assistant × σ) (broker : Broker) (id : String) (demand : Demand)
    (a : Assistant) (outside : σ)
    (hdeclined : declined (demand.run call broker id a outside).1 = true)
    (hanswered : ¬demand.Unanswered call id a outside) :
    let left := demand.residue id a
    (demand.run call broker id a outside).2.1 =
        { left with feed := (demand.run call broker id a outside).2.1.feed } ∧
      (demand.run call broker id a outside).2.2 = outside ∧
      (a.Reached → ¬demand.IsTornCreation → left = a) ∧
      (a.store.Holds id none → demand.IsTornCreation →
        Turned id (some {}) 0 a left ∧ left = a.withStore left.store) := by
  intro left
  obtain ⟨hleft, houtside⟩ := run_of_declined hdeclined hanswered
  refine ⟨hleft, houtside, fun hreached hdemand => ?_,
    fun h hdemand => residue_of_tornCreation h hdemand⟩
  obtain ⟨r, h⟩ := hreached.exists_holds id
  exact residue_of_holds h hdemand

/-- A gateway that archives every protocol and keeps what it is called with. -/
def keepCalls (protocol : SetupProtocol) (w : Assistant × List SetupProtocol) :
    Except GatewayError String × Assistant × List SetupProtocol :=
  (.ok "P1", w.1, w.2 ++ [protocol])

/-- The assistant with a session at the serial numbers, while another one is being submitted. -/
def sparse : Assistant :=
  { settings := {}, store := sparseStore, gateway := default, busy := ["b"] }

/-- A form without towers is declined, and the gateway has no calls to keep. -/
theorem declined_leaves_sparse :
    let result := (submit formCounts []).run keepCalls (fun _ => .refused) "a" sparse []
    declined result.1 = true ∧ result.2.1 = { sparse with feed := result.2.1.feed } ∧
      result.2.2 = [] := by
  have hdeclined : declined ((submit formCounts []).run keepCalls (fun _ => .refused) "a"
      sparse []).1 = true := by decide +kernel
  have hanswered : ¬(submit formCounts []).Unanswered keepCalls "a" sparse [] := by
    rintro ⟨p, a', -, hanswer⟩
    exact hanswer trivial
  obtain ⟨hleft, houtside, -⟩ := declined_leaves keepCalls (fun _ => .refused) "a"
    (submit formCounts []) sparse [] hdeclined hanswered
  exact ⟨hdeclined, hleft, houtside⟩

/-- **Not every demand that is declined leaves nothing**: where there was no session, there is one
that was to be created for a device with half of a pair in its comment. -/
theorem not_always_untouched :
    ¬∀ (a : Assistant) (id : String) (demand : Demand), a.Reached →
      let result := demand.run keepCalls (fun _ => .refused) id a []
      declined result.1 = true → ¬demand.Unanswered keepCalls id a [] →
        result.2.1.store.entries id = a.store.entries id := by
  intro h
  have hreached : Reached { settings := {}, store := .empty .memory, gateway := default } :=
    ⟨{}, default, none, .memory, [], ⟨by rintro _ ⟨⟩, List.nodup_nil⟩, rfl⟩
  have huntouched := h _ "a" (.create (some Edge.halfCommented)) hreached (by decide +kernel)
    (by rintro ⟨⟩)
  exact absurd huntouched (by decide +kernel)

end Demand

end Commissioning
