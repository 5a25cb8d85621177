import Commissioning.Proofs.Installation.Document
import Commissioning.Proofs.Installation.RoundTrip
import Commissioning.Session.Codec

/-!
# Sessions, kept and loaded

A session is **sound** (`Commissioning.Session.Sound`) if its data and its device are in the
bounds of their readers, its whole numbers can be written and no text of its device is torn, and
there is a view at its index.
Entries **keep** a session (`Commissioning.Session.Kept`) if under each of its keys there is
the text that is written for it, and no device if it has none.

Saving a sound session makes the entries keep it and touches no other session
(`Commissioning.Session.save_of_sound`); entries that keep a sound session load as that session
(`Commissioning.Session.load_of_kept`), and no part of it is replaced by a default on the way
(`Commissioning.Session.intact_of_kept`). Together this is the round trip.

Two things keep a session from being saved. One with data that cannot be written leaves the store
as it is (`Commissioning.Session.save_of_not_writable`). But the device is written last: one with
a torn text stands in the way only after the texts of the system and of the index have been
written, as if the session had no device (`Commissioning.Session.save_of_torn`). So not every
session is loaded as it was saved, and which one is loaded instead can be said
(`Commissioning.Session.load_save`).
-/

namespace Commissioning

namespace Session

/-- A session as the operations of the wizard leave it. -/
structure Sound (s : Session) : Prop where
  data : s.data.InBounds
  writable : s.data.IsWritable
  edge : ∀ e ∈ s.edge, e.InBounds
  whole : ∀ e ∈ s.edge, e.IsWhole
  index_nonneg : 0 ≤ s.viewIndex
  index_lt : s.viewIndex < s.viewCount

/-- The entries hold the session: its texts under its keys. -/
structure Kept (s : Session) (entries : Entries) : Prop where
  system : entries.get? systemKey = s.systemDocument.write
  index : entries.get? viewIndexKey = some (String.ofList (intChars s.viewIndex))
  edge : entries.get? edgeKey = s.edge.bind fun e => e.toJson.write

/-- The entries have been written over: they hold the texts of the session, and what was there of
a device before if the session has none. -/
structure Written (s : Session) (before after : Entries) : Prop where
  system : after.get? systemKey = s.systemDocument.write
  index : after.get? viewIndexKey = some (String.ofList (intChars s.viewIndex))
  edge : after.get? edgeKey = (s.edge.bind fun e => e.toJson.write).or (before.get? edgeKey)

/-- With no device left over they hold the session. -/
theorem Written.kept {s : Session} {before after : Entries} (h : s.Written before after)
    (hs : s.Sound) (hleft : s.edge = none → before.get? edgeKey = none) : s.Kept after := by
  refine ⟨h.system, h.index, ?_⟩
  rw [h.edge]
  rcases he : s.edge with _ | e
  · rw [hleft he]
    rfl
  · obtain ⟨cs, hcs⟩ := Option.isSome_iff_exists.mp (Edge.isFlat_toJson (hs.whole e he)).isWritable
    rw [Option.bind_some, Json.write, hcs]
    rfl

/-! ### The texts of a session -/

theorem isWritable_systemDocument {s : Session} :
    s.systemDocument.IsWritable ↔ s.data.IsWritable := by
  simp [systemDocument, Installation.IsWritable]

theorem isRegular_systemDocument (s : Session) : s.systemDocument.IsRegular := by
  simp [systemDocument]

theorem height_systemDocument_le (s : Session) : s.systemDocument.height ≤ Json.nestingLimit := by
  have hdata := s.data.height_toJson_le
  have hlimit : Json.nestingLimit = 990 := rfl
  simp only [systemDocument, Json.height, Json.membersHeight]
  omega

theorem viewCount_le (system : StorageSystem) : system.viewCount ≤ 17 := by
  cases system <;> decide

/-- A number of at most two digits has few digits. -/
theorem length_natChars_le_of_lt {n : Nat} (h : n < 100) : (natChars n).length ≤ digitLimit := by
  have hshort : (natChars n).length ≤ 2 := by
    rw [natChars, Nat.length_toDigits_le_iff (by decide) (by decide)]
    exact h
  exact Nat.le_trans hshort (by decide)

/-- An index that is not far from the views has few digits. -/
theorem length_natChars_index_le {i : Int} (h : -1 ≤ i ∧ i ≤ 17) :
    (natChars i.natAbs).length ≤ digitLimit :=
  length_natChars_le_of_lt (by omega)

theorem text_of_natAbs_lt {i : Int} (h : i.natAbs < 100) :
    Number.text (.int i) = .ok (String.ofList (intChars i)) := by
  rw [Number.text, intChars?, if_pos (length_natChars_le_of_lt h)]

/-- The text of an index that is not far from the views. -/
theorem text_index {i : Int} (h : -1 ≤ i ∧ i ≤ 17) :
    Number.text (.int i) = .ok (String.ofList (intChars i)) :=
  text_of_natAbs_lt (by omega)

/-- The index of a sound session is not far from the views. -/
theorem Sound.index_near {s : Session} (h : s.Sound) : -1 ≤ s.viewIndex ∧ s.viewIndex ≤ 17 := by
  have hcount : s.viewCount ≤ 17 := viewCount_le s.system
  have hnonneg := h.index_nonneg
  have hlt := h.index_lt
  omega

/-! ### Saving -/

theorem text_eq {j : Json} {text : String} (h : j.write = some text) : j.text = .ok text := by
  rw [Json.text, h]

theorem exists_write {j : Json} (h : j.IsWritable) : ∃ text, j.write = some text := by
  obtain ⟨cs, hcs⟩ := Option.isSome_iff_exists.mp h
  exact ⟨String.ofList cs, by rw [Json.write, hcs]; rfl⟩

/-- **The text of a device** is that of its document, if none of its texts is torn. -/
theorem exists_text {e : Edge} (h : e.IsWhole) :
    ∃ text, e.toJson.write = some text ∧ e.text = .ok text := by
  obtain ⟨text, htext⟩ := exists_write (Edge.isFlat_toJson h).isWritable
  refine ⟨text, htext, ?_⟩
  rw [Edge.text, h, ← text_eq htext]

theorem systemKey_ne_viewIndexKey : systemKey ≠ viewIndexKey := by decide

theorem systemKey_ne_edgeKey : systemKey ≠ edgeKey := by decide

theorem viewIndexKey_ne_edgeKey : viewIndexKey ≠ edgeKey := by decide

/-- A sound session is written, and the other sessions are left as they are. -/
theorem exists_written {s : Session} (h : s.Sound) (store : SessionStore) (id : String) :
    ∃ store', s.save id store = .ok () store' ∧
      s.Written (store.entries id) (store'.entries id) ∧
      ∀ other, other ≠ id → store'.entries other = store.entries other := by
  obtain ⟨system, hsystem⟩ := exists_write (isWritable_systemDocument.mpr h.writable)
  have hindex : Number.text (.int s.viewIndex) = .ok (String.ofList (intChars s.viewIndex)) :=
    text_index h.index_near
  have hkeys := systemKey_ne_viewIndexKey
  have hkeys' := systemKey_ne_edgeKey
  have hkeys'' := viewIndexKey_ne_edgeKey
  -- Without a device two entries are written; with one, three are.
  rcases he : s.edge with _ | e
  · refine ⟨(store.set id systemKey system).set id viewIndexKey
      (String.ofList (intChars s.viewIndex)), ?_, ⟨?_, ?_, ?_⟩, ?_⟩
    · simp only [save, written, text_eq hsystem, hindex, he]
      rfl
    · simp [SessionStore.entries_set, Assoc.get?_put, hsystem, hkeys.symm]
    · simp [SessionStore.entries_set]
    · simp [SessionStore.entries_set, Assoc.get?_put, he, hkeys', hkeys'']
    · intro other hother
      simp [SessionStore.entries_set, Ne.symm hother]
  · obtain ⟨edge, hwrite, hedge⟩ := exists_text (h.whole e he)
    refine ⟨((store.set id systemKey system).set id viewIndexKey
      (String.ofList (intChars s.viewIndex))).set id edgeKey edge, ?_, ⟨?_, ?_, ?_⟩, ?_⟩
    · simp only [save, written, text_eq hsystem, hindex, he, hedge]
      rfl
    · simp [SessionStore.entries_set, Assoc.get?_put, hsystem, hkeys.symm, hkeys'.symm]
    · simp [SessionStore.entries_set, Assoc.get?_put, hkeys''.symm]
    · simp [SessionStore.entries_set, he, hwrite]
    · intro other hother
      simp [SessionStore.entries_set, Ne.symm hother]

/-- **Saving a sound session** makes the entries keep it, if no device is left over from before,
and leaves the other sessions as they are. -/
theorem save_of_sound {s : Session} (h : s.Sound) {store : SessionStore} {id : String}
    (hleft : s.edge = none → (store.entries id).get? edgeKey = none) :
    ∃ store', s.save id store = .ok () store' ∧ s.Kept (store'.entries id) ∧
      ∀ other, other ≠ id → store'.entries other = store.entries other := by
  obtain ⟨store', hsave, hwritten, hframe⟩ := exists_written h store id
  exact ⟨store', hsave, hwritten.kept h hleft, hframe⟩

/-- **A session that cannot be written** leaves the store as it is. -/
theorem save_of_not_writable {s : Session} (h : ¬s.data.IsWritable) (store : SessionStore)
    (id : String) : s.save id store = .error .tooManyDigits store := by
  have hnone : s.systemDocument.chars = none := by
    rw [← isWritable_systemDocument, Json.IsWritable, Bool.not_eq_true, Option.isSome_eq_false_iff,
      Option.isNone_iff_eq_none] at h
    exact h
  have htext : s.systemDocument.text = .error .tooManyDigits := by
    rw [Json.text, Json.write, hnone]
    rfl
  rw [save, written, htext]
  rfl

/-- A text that cannot be made comes too late to undo those in front of it. -/
theorem write_append_error {id : String} (key : String) (e : NumberError)
    {texts : List (String × Except NumberError String)} : ∀ store store' : SessionStore,
    SessionStore.write id texts store = .ok () store' →
      SessionStore.write id (texts ++ [(key, .error e)]) store = .error e store' := by
  induction texts with
  | nil =>
    rintro store _ ⟨⟩
    rfl
  | cons text texts ih =>
    obtain ⟨key', made⟩ := text
    intro store store' h
    cases made with
    | ok made => exact ih (store.set id key' made) store' h
    | error e' => cases h

/-- **A device with a torn text** is met only when the rest of the session has been written: the
store is left as if the session had been saved without its device. -/
theorem save_of_torn {s : Session} {e : Edge} {t : TornText} (he : s.edge = some e)
    (ht : e.torn? = some t) {store store' : SessionStore} {id : String}
    (h : Session.save { s with edge := none } id store = .ok () store') :
    s.save id store = .error (.torn t) store' := by
  have htext : e.text = .error (.torn t) := by rw [Edge.text, ht]
  have hwritten : s.written =
      Session.written { s with edge := none } ++ [(edgeKey, .error (.torn t))] := by
    simp only [written, he, htext, List.append_nil]
    rfl
  rw [save, hwritten]
  exact write_append_error edgeKey _ store store' h

/-- A sound session is sound also without its device. -/
theorem Sound.unbound {s : Session} (h : s.Sound) : Sound { s with edge := none } :=
  { h with
    edge := by rintro e ⟨⟩
    whole := by rintro e ⟨⟩ }

/-! ### Loading -/

/-- **Nothing is replaced by a default**: the entry of the system is a document that names a
known system and has data in order, the entry of the index is a number for which there is a
view, and the entry of the device, if there is one, is a device. -/
structure Intact (entries : Entries) : Prop where
  system : ∃ text ms system data d i, entries.get? systemKey = some text ∧
    Json.read text = .ok (.obj ms) ∧ Assoc.get? ms "id" = some (.str (StorageSystem.id system)) ∧
    Assoc.get? ms "data" = some (.obj data) ∧ Installation.ofMembers .value data = .valid d ∧
    ((entries.get? viewIndexKey).bind fun index =>
      intOfText? (String.ofList (Text.trim index.toList))) = some i ∧
    0 ≤ i ∧ i < system.viewCount
  edge : ∀ text, entries.get? edgeKey = some text → ∃ e, Intake.stored Edge.intake text = .valid e

section Kept

variable {s : Session} {before entries : Entries}

theorem read_systemDocument (h : s.Sound)
    (hsystem : entries.get? systemKey = s.systemDocument.write) :
    ∃ text, entries.get? systemKey = some text ∧
      Json.read text = .ok (.obj [("id", .str s.system.id), ("data", .obj s.data.members)]) := by
  obtain ⟨text, htext⟩ := exists_write (isWritable_systemDocument.mpr h.writable)
  exact ⟨text, hsystem.trans htext,
    Json.read_write htext (isRegular_systemDocument s) (height_systemDocument_le s)⟩

theorem intOfText?_index (h : s.Sound) :
    intOfText? (String.ofList (Text.trim (String.ofList (intChars s.viewIndex)).toList)) =
      some s.viewIndex := by
  have htrim : Text.trim (intChars s.viewIndex) = intChars s.viewIndex :=
    trimBy_eq_self fun c hc => (isNumeralChar_of_mem_intChars hc).isBlank
  rw [String.toList_ofList, htrim,
    intOfText?_ofList_intChars (length_natChars_index_le h.index_near)]

theorem stored_edge (h : s.Sound) {e : Edge} (he : s.edge = some e) {text : String}
    (htext : e.toJson.write = some text) : Intake.stored Edge.intake text = .valid e := by
  rw [Intake.stored, Json.Stored.read_write htext (Edge.isFlat_toJson (h.whole e he))]
  exact Edge.intake_toJson (h.edge e he)

/-- The device that is written is the one that is read. -/
theorem readEdge_write (h : s.Sound) {e : Edge} (he : s.edge = some e) :
    readEdge e.toJson.write = some e := by
  obtain ⟨text, htext⟩ := exists_write (Edge.isFlat_toJson (h.whole e he)).isWritable
  rw [htext, readEdge, Option.bind_eq_bind, Option.bind_some, stored_edge h he htext]

/-- Entries with the texts of a sound session load as that session, with the device that they
have. -/
theorem load_of_texts (h : s.Sound)
    (hsystemText : entries.get? systemKey = s.systemDocument.write)
    (hindexText : entries.get? viewIndexKey = some (String.ofList (intChars s.viewIndex)))
    {edge : Option Edge} (hedge : readEdge (entries.get? edgeKey) = edge) :
    load entries = .ok { s with edge } := by
  obtain ⟨text, htext, hread⟩ := read_systemDocument h hsystemText
  have hsystem : readSystemEntry (entries.get? systemKey) = .ok (some (s.system, s.data)) := by
    have hid : readSystem (some (.str s.system.id)) = .ok (some s.system) := by
      rw [readSystem, StorageSystem.ofId?_id]
    have hdata : readData (some (.obj s.data.members)) = s.data := by
      rw [readData, Installation.ofMembers_members .value h.data]
    rw [htext, readSystemEntry, Option.map_some, hread]
    show (do
      let system ← readSystem (some (.str s.system.id))
      return system.map fun t => (t, readData (some (.obj s.data.members)))) = _
    rw [hid, hdata]
    rfl
  have hindex : readViewIndex (entries.get? viewIndexKey) = s.viewIndex := by
    rw [hindexText, readViewIndex, intOfText?_index h, Option.getD_some]
  have hbounded : boundedIndex s.system s.viewIndex = s.viewIndex :=
    if_pos ⟨h.index_nonneg, h.index_lt⟩
  rw [load, hsystem, hindex, hedge]
  simp only [bind, Except.bind, hbounded]
  rfl

/-- **Entries that keep a sound session load as that session.** -/
theorem load_of_kept (h : s.Sound) (hkept : s.Kept entries) : load entries = .ok s := by
  refine load_of_texts h hkept.system hkept.index ?_
  rw [hkept.edge]
  rcases he : s.edge with _ | e
  · rfl
  · exact readEdge_write h he

/-- What is written over entries is loaded from them, as far as the device was the same before. -/
theorem load_of_written (h : s.Sound) (hwritten : s.Written before entries)
    (hbefore : readEdge (before.get? edgeKey) = s.edge) : load entries = .ok s := by
  refine load_of_texts h hwritten.system hwritten.index ?_
  rw [hwritten.edge]
  rcases he : s.edge with _ | e
  · exact hbefore.trans he
  · obtain ⟨text, htext⟩ := exists_write (Edge.isFlat_toJson (h.whole e he)).isWritable
    have hread := readEdge_write h he
    rw [Option.bind_some, htext, Option.some_or]
    rw [htext] at hread
    exact hread

/-- **No part of a sound session that is kept is replaced by a default.** -/
theorem intact_of_kept (h : s.Sound) (hkept : s.Kept entries) : Intact entries := by
  obtain ⟨text, htext, hread⟩ := read_systemDocument h hkept.system
  refine ⟨⟨text, _, s.system, _, s.data, s.viewIndex, htext, hread, rfl, rfl,
    Installation.ofMembers_members .value h.data, ?_, h.index_nonneg, h.index_lt⟩, ?_⟩
  · rw [hkept.index, Option.bind_some, intOfText?_index h]
  · intro text htext
    rw [hkept.edge] at htext
    obtain ⟨e, he, hwrite⟩ := Option.bind_eq_some_iff.mp htext
    exact ⟨e, stored_edge h he hwrite⟩

end Kept

/-- **What is saved is loaded, unless a text of the device is torn**: a session whose data and
device are values of their readers, whose whole numbers can be written, and at whose index there is
a view. Of what stood in the entries before only a device matters, and only if the session has
none. With a torn text saving fails, but not before all else has been saved; what is loaded then
has the device that there was before. -/
theorem load_save (s : Session) (store : SessionStore) (id : String)
    (hdata : ∃ channel j, Installation.intake channel j = .valid s.data)
    (hwritable : s.data.toJson.write.isSome = true)
    (hedge : ∀ e ∈ s.edge, ∃ j, Edge.intake j = .valid e)
    (hindex : 0 ≤ s.viewIndex ∧ s.viewIndex < s.viewCount)
    (hleft : s.edge = none → store.get? id edgeKey = none) :
    match s.edge.bind Edge.torn? with
    | none => ∃ store', s.save id store = .ok () store' ∧ load (store'.entries id) = .ok s
    | some t => ∃ store', s.save id store = .error (.torn t) store' ∧
        load (store'.entries id) = .ok { s with edge := readEdge (store.get? id edgeKey) } := by
  -- But for its device the session is sound.
  have hrest : Sound { s with edge := none } :=
    { data := Installation.inBounds_iff_exists_intake.mpr hdata
      writable := by
        rwa [Json.write, Option.isSome_map] at hwritable
      edge := by rintro e ⟨⟩
      whole := by rintro e ⟨⟩
      index_nonneg := hindex.1
      index_lt := hindex.2 }
  split
  · next hwhole =>
    have hsound : s.Sound :=
      { hrest with
        edge := fun e he => Edge.inBounds_iff_exists_intake.mpr (hedge e he)
        whole := fun e he => Option.bind_eq_none_iff.mp hwhole e he }
    have hleft' : s.edge = none → (store.entries id).get? edgeKey = none := fun he => by
      rw [← SessionStore.get?_eq_get?_entries]
      exact hleft he
    obtain ⟨store', hsave, hkept, -⟩ := save_of_sound hsound hleft'
    exact ⟨store', hsave, load_of_kept hsound hkept⟩
  · next t htorn =>
    obtain ⟨e, he, ht⟩ := Option.bind_eq_some_iff.mp htorn
    obtain ⟨store', hsave, hwritten, -⟩ := exists_written hrest store id
    refine ⟨store', save_of_torn he ht hsave, load_of_texts hrest hwritten.system hwritten.index ?_⟩
    rw [hwritten.edge, SessionStore.get?_eq_get?_entries]
    rfl

/-- A session past its serial numbers, with a negative zero and a value that is not a number. -/
def signedZero : Session where
  system := .home
  viewIndex := 13
  edge := some { id := "edge0" }
  data :=
    { pv := { dc := [{ value := some (.zero true) }, { value := some .nan }] }
      lineSideMeterFuse := { otherValue := some (-40) } }

theorem load_save_signed_zero :
    ∃ store', signedZero.save "session" (.empty .memory) = .ok () store' ∧
      load (store'.entries "session") = .ok signedZero :=
  load_save signedZero (.empty .memory) "session"
    (Installation.inBounds_iff_exists_intake.mp ⟨by decide, by decide⟩)
    (by decide +kernel)
    (by
      rintro _ ⟨⟩
      exact Edge.inBounds_iff_exists_intake.mp ⟨by decide, by decide⟩)
    (by decide) (by rintro ⟨⟩)

/-- A session that is being created for a device with half of a pair in its comment. -/
def halfCreated : Session := { edge := some Edge.halfCommented }

/-- **Not every session is saved**, although its data and its device are values of their readers:
one that has just been created for a device with half of a pair in its comment is not. -/
theorem not_always_saved :
    ¬∀ (s : Session) (store : SessionStore) (id : String),
      (∃ channel j, Installation.intake channel j = .valid s.data) →
      s.data.toJson.write.isSome = true → (∀ e ∈ s.edge, ∃ j, Edge.intake j = .valid e) →
      (0 ≤ s.viewIndex ∧ s.viewIndex < s.viewCount) →
      (s.edge = none → store.get? id edgeKey = none) →
        ∃ store', s.save id store = .ok () store' ∧ load (store'.entries id) = .ok s := by
  intro h
  obtain ⟨store', hsave, -⟩ := h halfCreated (.empty .memory) "session"
    (Installation.inBounds_iff_exists_intake.mp ⟨by decide, by decide⟩) (by decide +kernel)
    (by
      rintro _ ⟨⟩
      exact Edge.inBounds_iff_exists_intake.mp ⟨by decide, by decide⟩)
    (by decide) (by simp [halfCreated])
  obtain ⟨rest, hrest⟩ : ∃ rest, Session.save {} "session" (.empty .memory) = .ok () rest :=
    ⟨_, rfl⟩
  rw [save_of_torn (s := halfCreated) rfl rfl hrest] at hsave
  cases hsave

end Session

end Commissioning
