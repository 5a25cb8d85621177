import Commissioning.Proofs.Except
import Commissioning.Proofs.Session.Loading

/-!
# Loading repairs

The three texts of a session can be damaged one by one, and each has a fallback of its own.
**What is loaded is in order all the same, and saving it leaves nothing to be repaired**
(`Commissioning.Session.load_repairs`): a session that was loaded is loaded again as it is from the
entries it has been saved over.

Everything hangs on the system. Entries name one (`Commissioning.Session.NamesSystem`) or they do
not; without a name the session is a fresh one but for its device, with a name it has the system
that is named, whatever the data and the index are like. The device is apart from this. Its text is
not written over if it cannot be read, so it is still there when the session is loaded again, and
cannot be read then either.
-/

namespace Commissioning

theorem StorageSystem.ofId?_eq_some_iff {id : String} {system : StorageSystem} :
    ofId? id = some system ↔ id = system.id := by
  constructor
  · intro h
    unfold ofId? at h
    have hid := List.find?_some h
    exact (beq_iff_eq.mp hid).symm
  · rintro rfl
    exact ofId?_id system

namespace Session

variable {entries : Entries} {s : Session}

/-- **Entries name a system**: the text under its key is an object, and the identifier in it is that
of the system. -/
def NamesSystem (entries : Entries) (system : StorageSystem) : Prop :=
  ∃ text ms, entries.get? systemKey = some text ∧ Json.read text = .ok (.obj ms) ∧
    Assoc.get? ms "id" = some (.str system.id)

theorem readSystem_eq_some_iff {j : Option Json} {system : StorageSystem} :
    readSystem j = .ok (some system) ↔ j = some (.str system.id) := by
  constructor
  · intro h
    unfold readSystem at h
    split at h
    · rw [StorageSystem.ofId?_eq_some_iff.mp (Except.ok.inj h)]
    · cases h
    · cases h
    · cases h
  · rintro rfl
    rw [readSystem, StorageSystem.ofId?_id]

/-- A system is read exactly if it is named. -/
theorem readSystemEntry_eq_some_iff {system : StorageSystem} :
    (∃ d, readSystemEntry (entries.get? systemKey) = .ok (some (system, d))) ↔
      NamesSystem entries system := by
  constructor
  · rintro ⟨d, h⟩
    unfold readSystemEntry at h
    split at h
    · next ms hread =>
      obtain ⟨text, htext, hread⟩ := Option.map_eq_some_iff.mp hread
      obtain ⟨named, hnamed, h⟩ := exists_of_bind_eq_ok h
      obtain ⟨system', rfl, hpair⟩ := Option.map_eq_some_iff.mp (Except.ok.inj h)
      obtain ⟨rfl, -⟩ := Prod.mk.inj hpair
      exact ⟨text, ms, htext, hread, readSystem_eq_some_iff.mp hnamed⟩
    · cases h
    · cases h
  · rintro ⟨text, ms, htext, hread, hid⟩
    refine ⟨readData (Assoc.get? ms "data"), ?_⟩
    rw [htext, readSystemEntry, Option.map_some, hread]
    simp only [readSystem_eq_some_iff.mpr hid]
    rfl

/-- **What is loaded** has the system that is named, or is fresh but for the device. -/
theorem load_cases (h : load entries = .ok s) :
    NamesSystem entries s.system ∨
      (∀ system, ¬NamesSystem entries system) ∧ s = { edge := s.edge } := by
  unfold load at h
  obtain ⟨o, hentry, h⟩ := exists_of_bind_eq_ok h
  cases o with
  | none =>
    obtain rfl := Except.ok.inj h
    refine Or.inr ⟨fun system hnames => ?_, rfl⟩
    obtain ⟨d, hd⟩ := readSystemEntry_eq_some_iff.mpr hnames
    rw [hentry] at hd
    cases hd
  | some p =>
    obtain rfl := Except.ok.inj h
    exact Or.inl (readSystemEntry_eq_some_iff.mp ⟨p.2, hentry⟩)

theorem NamesSystem.unique {system system' : StorageSystem} (h : NamesSystem entries system)
    (h' : NamesSystem entries system') : system = system' := by
  obtain ⟨d, hd⟩ := readSystemEntry_eq_some_iff.mpr h
  obtain ⟨d', hd'⟩ := readSystemEntry_eq_some_iff.mpr h'
  exact congrArg Prod.fst (Option.some.inj (Except.ok.inj (hd.symm.trans hd')))

/-- **Loading repairs.** Of whatever entries load, the session has one of the systems and an index
of a view of it. If the entries name no system, because there is no text for it, or it is no object,
or the identifier in it is not that of a system, the session is at the first view of the general
system with no data entered, whatever stands for the index; and if they name one, the session has
that one, whatever the data and the index are. Saving the session over these entries and loading it
again gives the same session. -/
theorem load_repairs (h : load entries = .ok s) :
    (s.system ∈ StorageSystem.all ∧ 0 ≤ s.viewIndex ∧ s.viewIndex < s.viewCount) ∧
      ((∀ system, ¬NamesSystem entries system) →
        s.system = .general ∧ s.viewIndex = 0 ∧ s.data = {}) ∧
      (∀ system, NamesSystem entries system → s.system = system) ∧
      ∀ (store : SessionStore) (id : String), store.entries id = entries →
        ∃ store', s.save id store = .ok () store' ∧ load (store'.entries id) = .ok s := by
  have hsound := sound_of_load h
  refine ⟨⟨?_, hsound.index_nonneg, hsound.index_lt⟩, fun hnone => ?_, fun system hnames => ?_,
    fun store id hentries => ?_⟩
  · cases s.system <;> decide
  · rcases load_cases h with hnames | ⟨-, hfresh⟩
    · exact absurd hnames (hnone _)
    · rw [hfresh]
      exact ⟨rfl, rfl, rfl⟩
  · rcases load_cases h with hnames' | ⟨hnone, -⟩
    · exact hnames'.unique hnames
    · exact absurd hnames (hnone system)
  · obtain ⟨store', hsave, hwritten, -⟩ := exists_written hsound store id
    refine ⟨store', hsave, load_of_written hsound hwritten ?_⟩
    rw [hentries]
    exact readEdge_of_load h

/-- Entries with a system whose data are not in order, an index without a view, and a device that
cannot be read. -/
def damaged : Entries :=
  [(systemKey, "\x7b\"id\":\"FENECON_HOME\",\"data\":\x7b\"pv\":3\x7d\x7d"), (viewIndexKey, "99"),
    (edgeKey, "?")]

theorem load_repairs_damaged :
    load damaged = .ok { system := .home } ∧
      ∃ store', Session.save { system := .home } "session"
          (.memory ⟨[("session", damaged)]⟩) = .ok () store' ∧
        load (store'.entries "session") = .ok { system := .home } := by
  have hload : load damaged = .ok { system := .home } := by decide +kernel
  exact ⟨hload, (load_repairs hload).2.2.2 (.memory ⟨[("session", damaged)]⟩) "session" rfl⟩

end Session

end Commissioning
