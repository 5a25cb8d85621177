import Commissioning.Proofs.Installation.Writable
import Commissioning.Proofs.Json.StoredWhole
import Commissioning.Proofs.Session.RoundTrip

/-!
# What entries load as

Whatever texts the entries of a session hold, what is loaded from them is a sound session
(`Commissioning.Session.sound_of_load`): parts that cannot be read are replaced by those of a
fresh session, an index without a view by zero, and what was read from a text can be written
again. So no other module needs to ask where the entries came from.

Loading fails for one reason only, and it lies in the text of the system
(`Commissioning.Session.Refuses`): the text is beyond measure, or it is an object that names the
system by a list or an object. The texts of the index and of the device never matter
(`Commissioning.Session.load_eq_error_iff`), so entries load exactly if the text of the system is
not refused (`Commissioning.Session.loads_iff`). A text of moderate length is refused only for
the name of the system (`Commissioning.Session.Refuses.structuredId_of_length_le`).
-/

namespace Commissioning

namespace Session

/-! ### The parts that are read -/

/-- A device that is read from an entry is read from a stored document. -/
theorem exists_stored_of_readEdge {raw : Option String} {e : Edge} (h : readEdge raw = some e) :
    ∃ text j, Json.Stored.read text = .ok j ∧ Edge.intake j = .valid e := by
  obtain ⟨text, -, h⟩ := Option.bind_eq_some_iff.mp h
  split at h
  · next e' hstored =>
    obtain rfl := Option.some.inj h
    unfold Intake.stored at hstored
    split at hstored
    · next j hread => exact ⟨text, j, hread, hstored⟩
    · cases hstored
  · cases h

theorem inBounds_of_readEdge {raw : Option String} {e : Edge} (h : readEdge raw = some e) :
    e.InBounds := by
  obtain ⟨_, _, -, hintake⟩ := exists_stored_of_readEdge h
  exact Edge.inBounds_of_intake hintake

/-- A text that may be torn is whole if the document is from which it was read. -/
theorem isWhole_of_member {name : String} {default : String} {t : LooseText} {ms : Members}
    (hms : ∀ m ∈ ms, m.2.IsWhole) (h : Intake.member name Intake.looseText default ms = .valid t) :
    ∃ s : String, t = .whole s := by
  rw [Intake.member] at h
  split at h
  · next j hj =>
    have hread := Checked.under_eq_valid h
    cases j with
    | str s => exact ⟨s, (Checked.valid.inj hread).symm⟩
    | torn t => exact absurd (hms _ (Assoc.mem_of_last? hj)) id
    | _ => cases hread
  · exact ⟨default, (Checked.valid.inj h).symm⟩

theorem isWhole_of_intake {j : Json} {e : Edge} (hj : j.IsWhole) (h : Edge.intake j = .valid e) :
    e.IsWhole := by
  cases j with
  | obj ms =>
    have hms := Json.isWhole_obj.mp hj
    -- The members are taken off from the last to the first, which is the identifier.
    obtain ⟨_, _, h5, -, rfl⟩ := Checked.seq_eq_valid h
    obtain ⟨_, _, h4, hrole, rfl⟩ := Checked.seq_eq_valid h5
    obtain ⟨_, _, h3, hversion, rfl⟩ := Checked.seq_eq_valid h4
    obtain ⟨_, _, h2, hproduct, rfl⟩ := Checked.seq_eq_valid h3
    obtain ⟨_, _, h1, hcomment, rfl⟩ := Checked.seq_eq_valid h2
    obtain ⟨_, -, rfl⟩ := Checked.map_eq_valid h1
    refine Edge.isWhole_iff.mpr fun t ht => ?_
    simp only [Edge.looseTexts, List.mem_cons, List.not_mem_nil, or_false] at ht
    rcases ht with rfl | rfl | rfl | rfl
    · exact isWhole_of_member hms hcomment
    · exact isWhole_of_member hms hproduct
    · exact isWhole_of_member hms hversion
    · exact isWhole_of_member hms hrole
  | _ => cases h

/-- No text of a device that was stored is torn. -/
theorem isWhole_of_readEdge {raw : Option String} {e : Edge} (h : readEdge raw = some e) :
    e.IsWhole := by
  obtain ⟨_, _, hread, hintake⟩ := exists_stored_of_readEdge h
  exact isWhole_of_intake (Json.Stored.isWhole_of_read hread) hintake

theorem inBounds_readData (j : Option Json) : (readData j).InBounds := by
  unfold readData
  split
  · split
    · next hd => exact Installation.inBounds_of_ofMembers hd
    · exact Installation.inBounds_default
  · exact Installation.inBounds_default

theorem isWritable_readData {j : Option Json} (h : ∀ k ∈ j, k.IsWritable) :
    (readData j).IsWritable := by
  unfold readData
  split
  · next ms =>
    have hms := Json.isWritable_obj.mp (h (.obj ms) rfl)
    split
    · next hd => exact Installation.isWritable_of_ofMembers hms hd
    · exact Installation.isWritable_default
  · exact Installation.isWritable_default

theorem readSystemEntry_data {raw : Option String} {system : StorageSystem} {d : Installation}
    (h : readSystemEntry raw = .ok (some (system, d))) : d.InBounds ∧ d.IsWritable := by
  unfold readSystemEntry at h
  split at h
  · next ms hread =>
    obtain ⟨text, -, hread⟩ := Option.map_eq_some_iff.mp hread
    have hms := Json.isWritable_obj.mp (Json.isWritable_of_read hread)
    cases hsystem : readSystem (Assoc.get? ms "id") with
    | ok o =>
      rw [hsystem] at h
      obtain ⟨t, -, ht⟩ := Option.map_eq_some_iff.mp (Except.ok.inj h)
      obtain ⟨-, rfl⟩ := Prod.mk.inj ht
      refine ⟨inBounds_readData _, isWritable_readData fun j hj => ?_⟩
      exact hms _ (Assoc.mem_of_get? hj)
    | error e =>
      rw [hsystem] at h
      cases h
  · cases h
  · cases h

theorem boundedIndex_bounds (system : StorageSystem) (index : Int) :
    0 ≤ boundedIndex system index ∧ boundedIndex system index < system.viewCount := by
  have hpos := StorageSystem.viewCount_pos system
  unfold boundedIndex
  split
  · next h => exact h
  · omega

/-- **What is loaded is sound**, whatever the entries hold. -/
theorem sound_of_load {entries : Entries} {s : Session} (h : load entries = .ok s) : s.Sound := by
  have hedge : ∀ e ∈ readEdge (entries.get? edgeKey), e.InBounds := fun e he =>
    inBounds_of_readEdge he
  have hwhole : ∀ e ∈ readEdge (entries.get? edgeKey), e.IsWhole := fun e he =>
    isWhole_of_readEdge he
  unfold load at h
  cases hsystem : readSystemEntry (entries.get? systemKey) with
  | error e =>
    rw [hsystem] at h
    cases h
  | ok o =>
    rw [hsystem] at h
    cases o with
    | none =>
      obtain rfl := Except.ok.inj h
      exact
        { data := Installation.inBounds_default
          writable := Installation.isWritable_default
          edge := hedge
          whole := hwhole
          index_nonneg := Int.le_refl 0
          index_lt := Int.natCast_pos.mpr (StorageSystem.viewCount_pos .general) }
    | some p =>
      obtain ⟨system, d⟩ := p
      obtain rfl := Except.ok.inj h
      obtain ⟨hdata, hwritable⟩ := readSystemEntry_data hsystem
      obtain ⟨hnonneg, hlt⟩ :=
        boundedIndex_bounds system (readViewIndex (entries.get? viewIndexKey))
      exact
        { data := hdata
          writable := hwritable
          edge := hedge
          whole := hwhole
          index_nonneg := hnonneg
          index_lt := hlt }

/-- The device of a session that is loaded is the one of the entries. -/
theorem readEdge_of_load {entries : Entries} {s : Session} (h : load entries = .ok s) :
    readEdge (entries.get? edgeKey) = s.edge := by
  unfold load at h
  cases hsystem : readSystemEntry (entries.get? systemKey) with
  | error e =>
    rw [hsystem] at h
    cases h
  | ok o =>
    rw [hsystem] at h
    cases o with
    | none =>
      obtain rfl := Except.ok.inj h
      rfl
    | some p =>
      obtain rfl := Except.ok.inj h
      rfl

/-! ### Entries that are refused -/

/-- **A text of the system is refused**: it is beyond measure, or it is an object that names the
system by a list or by an object. -/
inductive Refuses (text : String) : LoadError → Prop
  | beyond {what : Json.Excess} : Json.read text = .error (.beyond what) →
      Refuses text (.excess what)
  | list {ms : Members} {items : List Json} : Json.read text = .ok (.obj ms) →
      ms.get? "id" = some (.arr items) → Refuses text (.structuredId "list")
  | object {ms members : Members} : Json.read text = .ok (.obj ms) →
      ms.get? "id" = some (.obj members) → Refuses text (.structuredId "dict")

/-- A text of moderate length is refused only for the name of the system. -/
theorem Refuses.structuredId_of_length_le {text : String} {e : LoadError} (h : Refuses text e)
    (hlength : text.length ≤ Json.nestingLimit) : ∃ kind, e = .structuredId kind := by
  cases h with
  | beyond hread => exact absurd (Json.length_lt_of_read_beyond hread) (Nat.not_lt.mpr hlength)
  | list => exact ⟨_, rfl⟩
  | object => exact ⟨_, rfl⟩

theorem readSystem_eq_error {j : Option Json} {e : LoadError} (h : readSystem j = .error e) :
    (∃ items, j = some (.arr items) ∧ e = .structuredId "list") ∨
      ∃ members, j = some (.obj members) ∧ e = .structuredId "dict" := by
  unfold readSystem at h
  split at h
  · cases h
  · next items => exact Or.inl ⟨items, rfl, (Except.error.inj h).symm⟩
  · next members => exact Or.inr ⟨members, rfl, (Except.error.inj h).symm⟩
  · cases h

theorem readSystemEntry_eq_error_iff {raw : Option String} {e : LoadError} :
    readSystemEntry raw = .error e ↔ ∃ text, raw = some text ∧ Refuses text e := by
  constructor
  · intro h
    unfold readSystemEntry at h
    split at h
    · next ms hread =>
      obtain ⟨text, rfl, hjson⟩ := Option.map_eq_some_iff.mp hread
      refine ⟨text, rfl, ?_⟩
      cases hsystem : readSystem (Assoc.get? ms "id") with
      | ok o =>
        rw [hsystem] at h
        cases h
      | error e' =>
        rw [hsystem] at h
        obtain rfl := Except.error.inj h
        rcases readSystem_eq_error hsystem with ⟨items, hid, rfl⟩ | ⟨members, hid, rfl⟩
        · exact .list hjson hid
        · exact .object hjson hid
    · next what hread =>
      obtain ⟨text, rfl, hjson⟩ := Option.map_eq_some_iff.mp hread
      obtain rfl := Except.error.inj h
      exact ⟨text, rfl, .beyond hjson⟩
    · cases h
  · rintro ⟨text, rfl, h⟩
    cases h with
    | beyond hread => rw [readSystemEntry, Option.map_some, hread]
    | list hread hid =>
      simp only [readSystemEntry, Option.map_some, hread, hid, readSystem]
      rfl
    | object hread hid =>
      simp only [readSystemEntry, Option.map_some, hread, hid, readSystem]
      rfl

/-- **Loading fails** for the text of the system alone. -/
theorem load_eq_error_iff {entries : Entries} {e : LoadError} :
    load entries = .error e ↔ ∃ text, entries.get? systemKey = some text ∧ Refuses text e := by
  rw [← readSystemEntry_eq_error_iff, load]
  cases readSystemEntry (entries.get? systemKey) with
  | error e' => simp [bind, Except.bind]
  | ok o => cases o <;> simp [bind, Except.bind, pure, Except.pure]

/-- **Entries load as a sound session**, whatever they hold for the index and the device, exactly
if there is no text of the system that is refused. -/
theorem loads_iff (entries : Entries) :
    (∃ s, load entries = .ok s ∧ s.Sound) ↔
      ∀ text, entries.get? systemKey = some text → ∀ e, ¬Refuses text e := by
  constructor
  · rintro ⟨s, hs, -⟩ text htext e hrefused
    have herror : load entries = .error e := load_eq_error_iff.mpr ⟨text, htext, hrefused⟩
    rw [hs] at herror
    cases herror
  · intro h
    cases hload : load entries with
    | ok s => exact ⟨s, rfl, sound_of_load hload⟩
    | error e =>
      obtain ⟨text, htext, hrefused⟩ := load_eq_error_iff.mp hload
      exact absurd hrefused (h text htext e)

/-- A short text that is a document, and names the system by an empty list. -/
theorem not_loads_of_listed_id :
    ¬∀ entries : Entries, ∃ s, load entries = .ok s := by
  intro h
  obtain ⟨s, hs⟩ := h [(systemKey, "\x7b\"id\":[]\x7d")]
  have hread : Json.read "\x7b\"id\":[]\x7d" = .ok (.obj [("id", .arr [])]) :=
    Json.read_write (by decide +kernel) (by simp) (by decide)
  have herror : load [(systemKey, "\x7b\"id\":[]\x7d")] = .error (.structuredId "list") :=
    load_eq_error_iff.mpr ⟨_, rfl, .list hread rfl⟩
  rw [hs] at herror
  cases herror

end Session

end Commissioning
