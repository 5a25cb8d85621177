import Commissioning.Proofs.Assistant.Meanwhile
import Commissioning.Proofs.Assistant.Patching
import Commissioning.Proofs.Assistant.Proposals
import Commissioning.Proofs.SerialNumber.Kept

/-!
# The serial number of the inverter is remembered

When a form is accepted, its serial number of the inverter is kept as a trimmed text under the label
of its field, in front of all others (`Commissioning.Assistant.hasInverter_of_acceptForm`). So it
becomes the first lot of the protocol, and it is what the session knows of its inverter, since this
is looked up under the same label.

The serial numbers of a session are changed by patches and by other submissions only
(`Commissioning.Slot.Has.onSlot`): a submission that waits has them in hand, so they are there also
when it ends, whatever the gateway answers. **As long as they are not changed**, a form for the
session proposes what was submitted, unless the device reports a serial number itself
(`Commissioning.Traffic.inverter_remembered`).
-/

namespace Commissioning

/-! ### Accepted fields -/

/-- **A text that is accepted** is not blank, and is kept trimmed. -/
theorem Field.accepted_of_collectField {f : Field} {values : Members} {kept : SerialNumber}
    (hf : f.IsText) (h : collectField f values = .ok (kept, none)) :
    (f.given values).isBlank = false ∧ (∃ text, (f.given values).display? = some text) ∧
      kept = ⟨f.label, some (f.given values).trimmed⟩ := by
  have hcheck := check_of_collectField h
  obtain ⟨_, -, hkept⟩ := exists_of_bind_eq_ok h
  obtain ⟨_, hcoerce, -⟩ := exists_of_bind_eq_ok hkept
  rw [← given] at hcoerce
  cases hblank : (f.given values).isBlank with
  | true =>
    rw [check, if_pos hblank, if_pos hf.required] at hcheck
    cases hcheck
  | false =>
    -- A value that cannot be written down cannot be kept as a text either.
    simp only [coerce, hblank, Bool.false_eq_true, if_false, hf.type] at hcoerce
    obtain ⟨_, htrimmed, -⟩ := exists_of_bind_eq_ok hcoerce
    obtain ⟨text, hdisplay, -⟩ := exists_of_bind_eq_ok htrimmed
    have htext := Json.display_eq_ok_iff.mp hdisplay
    rw [collectField_eq hf htext, Field.entry, kept?, hblank] at h
    exact ⟨rfl, ⟨text, htext⟩, (Prod.mk.inj (Except.ok.inj h)).1.symm⟩

/-- The first entry of a tower of a form that is accepted is that of its first field. -/
theorem exists_of_collectTowers {t : Tower} {f : Field} {fs : List Field}
    {rest : List (Tower × List Field)} {values : TowerValues} {numbers : SerialNumbers}
    (h : collectTowers ((t, f :: fs) :: rest) values = .ok (numbers, [])) :
    ∃ entry entries, collectField f (values.ofTower t) = .ok (entry, none) ∧
      numbers.ofTower t = entry :: entries := by
  obtain ⟨⟨entries, complaints⟩, htower, h⟩ := exists_of_bind_eq_ok h
  obtain ⟨⟨others, more⟩, -, h⟩ := exists_of_bind_eq_ok h
  obtain ⟨hnumbers, hcomplaints⟩ := Prod.mk.inj (Except.ok.inj h)
  obtain rfl := (List.append_eq_nil_iff.mp hcomplaints).1
  obtain ⟨⟨entry, complaint⟩, hfield, h⟩ := exists_of_bind_eq_ok htower
  obtain ⟨⟨entries', complaints⟩, -, h⟩ := exists_of_bind_eq_ok h
  cases complaint with
  | some c => cases h
  | none =>
    cases h
    refine ⟨entry, entries', hfield, ?_⟩
    rw [← hnumbers, SerialNumbers.ofTower_setTower_self]

/-- The inverter is in front of a form. -/
theorem StorageSystem.towers_eq (s : StorageSystem) (proposed : SerialNumberDefaults) :
    ∃ fs rest, (s.serialNumberSchema proposed).towers =
      (.first, inverterField proposed.inverter :: fs) :: rest := by
  have hfirst := s.first_mem_take proposed
  rw [serialNumberSchema]
  cases hn : (proposed.clamp s).towers.toNat with
  | zero =>
    rw [hn] at hfirst
    cases hfirst
  | succ n => exact ⟨_, _, rfl⟩

/-! ### Serial numbers with an inverter -/

namespace SerialNumbers

/-- **The serial number of the inverter** is this text, and is in front of the others. -/
def HasInverter (text : String) (n : SerialNumbers) : Prop :=
  ∃ others, n.tower1 = ⟨inverterLabel, some text⟩ :: others

variable {n : SerialNumbers} {text : String}

/-- It is the first lot of a protocol. -/
theorem HasInverter.head_lots (h : n.HasInverter text) (hne : text ≠ "") : n.lots.head? =
    some ⟨Tower.first.lotCategory, s!"{inverterLabel} Seriennummer", text⟩ := by
  obtain ⟨others, htower⟩ := h
  have hne : (text == "") = false := beq_eq_false_iff_ne.mpr hne
  have hfirst : n.lots = n.tower1.filterMap (·.lot? .first) ++
      [Tower.second, Tower.third].flatMap fun t => (n.ofTower t).filterMap (·.lot? t) := rfl
  rw [hfirst, htower, List.filterMap_cons]
  simp only [SerialNumber.lot?, hne, Bool.false_eq_true, if_false]
  rfl

/-- It is what is known of the inverter. -/
theorem HasInverter.inverterSerial? {d : Installation}
    (h : d.battery.serialNumbers.HasInverter text) (hne : text ≠ "") :
    d.inverterSerial? = some text := by
  obtain ⟨others, htower⟩ := h
  rw [Installation.inverterSerial?, htower, List.find?_cons_of_pos (by simp [hne])]
  rfl

end SerialNumbers

namespace Assistant

/-- An accepted form is one without complaints, in which no inverter is proposed. -/
theorem exists_collect_of_acceptForm {system : StorageSystem} {fallback : SerialNumberDefaults}
    {counts : Members} {towers : TowerValues} {numbers : SerialNumbers}
    (h : acceptForm system fallback counts towers = .ok numbers) :
    ∃ proposed, proposed.inverter = none ∧
      (system.serialNumberSchema proposed).collect towers = .ok (numbers, []) := by
  obtain ⟨complaints, -, hchecked⟩ := exists_of_bind_eq_ok h
  split at hchecked
  · obtain ⟨⟨towerCount, moduleCount⟩, -, hcounted⟩ := exists_of_bind_eq_ok hchecked
    obtain ⟨⟨numbers', complaints'⟩, hcollect, hcollected⟩ := exists_of_bind_eq_ok hcounted
    cases complaints' with
    | nil =>
      cases hcollected
      exact ⟨_, rfl, eq_ok_of_mapError hcollect⟩
    | cons c cs => cases hcollected
  · cases hchecked

/-- **A form that is accepted** has a serial number for the inverter that is not blank. -/
theorem hasInverter_of_acceptForm {system : StorageSystem} {fallback : SerialNumberDefaults}
    {counts : Members} {towers : TowerValues} {numbers : SerialNumbers}
    (h : acceptForm system fallback counts towers = .ok numbers) :
    ∃ v text, (towers.ofTower .first).get? "batteryInverter" = some v ∧ v.isBlank = false ∧
      v.display? = some text ∧ numbers.HasInverter v.trimmed := by
  obtain ⟨proposed, hnone, hcollect⟩ := exists_collect_of_acceptForm h
  obtain ⟨fs, rest, htowers⟩ := system.towers_eq proposed
  rw [SerialNumberSchema.collect, htowers, hnone] at hcollect
  obtain ⟨entry, entries, hfield, htower⟩ := exists_of_collectTowers hcollect
  obtain ⟨hblank, ⟨text, htext⟩, rfl⟩ := Field.accepted_of_collectField ⟨rfl, rfl⟩ hfield
  cases hvalue : (towers.ofTower .first).get? "batteryInverter" with
  | none =>
    -- Nothing is proposed for the inverter, so what is left out is blank.
    have hgiven : (StorageSystem.inverterField none).given (towers.ofTower .first) = .null := by
      rw [Field.given, StorageSystem.inverterField, hvalue]
      rfl
    rw [hgiven] at hblank
    cases hblank
  | some v =>
    have hgiven : (StorageSystem.inverterField none).given (towers.ofTower .first) = v := by
      rw [Field.given, StorageSystem.inverterField, hvalue]
      rfl
    rw [hgiven] at hblank htext htower
    exact ⟨v, text, rfl, hblank, htext, entries, htower⟩

/-- **What is known of the inverter is proposed for it**, if the device reports nothing. -/
theorem exists_form_of_known {broker : Broker} {id : String} {numberOfTowers modules : Option Int}
    {a : Assistant} {s : Session} {proposal : Proposal} {text : String}
    (hload : load id a = .ok s a) (hknown : s.data.inverterSerial? = some text)
    (hproposes : Proposes broker s a numberOfTowers modules proposal)
    (hsilent : proposal.IsSilent) :
    ∃ schema a' fs rest, serialNumberForm broker id numberOfTowers modules a = .ok schema a' ∧
      schema.towers = (.first, StorageSystem.inverterField (some text) :: fs) :: rest := by
  obtain ⟨d, hd, hnone⟩ := hsilent.exists_defaults a.settings
  obtain ⟨a', hform⟩ := serialNumberForm_of_proposes hload hproposes hd
  have hproposed : (d.orInverter s.data.inverterSerial?).inverter = some text := by
    rw [SerialNumberDefaults.orInverter, hnone]
    exact hknown
  obtain ⟨fs, rest, htowers⟩ := s.system.towers_eq (d.orInverter s.data.inverterSerial?)
  rw [hproposed] at htowers
  exact ⟨_, a', fs, rest, hform, htowers⟩

end Assistant

/-- What a submission that begins has in hand: the serial numbers of an accepted form, and their
lots. -/
theorem Session.accepted_of_submission {s : Session} {id : String} {fallback : SerialNumberDefaults}
    {counts : Members} {towers : TowerValues} {p : Submission}
    (h : s.submission id fallback counts towers = .ok p) :
    Assistant.acceptForm s.system fallback counts towers =
        .ok p.session.data.battery.serialNumbers ∧
      p.protocol.lots = p.session.data.battery.serialNumbers.lots := by
  unfold submission at h
  split at h
  · cases h
  split at h
  · cases h
  split at h
  · cases h
  split at h
  · cases h
  next numbers haccepted =>
  split at h
  · cases h
  next protocol hprotocol =>
  obtain ⟨items, -, hassembled⟩ := exists_of_bind_eq_ok hprotocol
  cases h
  cases hassembled
  exact ⟨haccepted, rfl⟩

/-! ### What changes serial numbers -/

/-- **An act keeps off the serial numbers**: it submits none, and lays no patch over them. -/
def Act.SparesSerialNumbers : Act → Prop
  | .submit .. => False
  | .operate (.updateData patch) => Json.IsTidy (.obj patch) ∧
      ∀ leaf ∈ SerialNumbers.leaves,
        valueAt? patch ("battery" :: "serial_numbers" :: leaf.path) = none
  | _ => True

/-- **A patch that keeps off the serial numbers** leaves them as they are. -/
theorem Installation.serialNumbers_of_becomes {d d' : Installation} {patch : Members}
    (h : d.Becomes patch d') (hd : d.InBounds)
    (hspares : (Act.operate (.updateData patch)).SparesSerialNumbers) :
    d'.battery.serialNumbers = d.battery.serialNumbers := by
  obtain ⟨hpatch, hspares⟩ := hspares
  have hleaf : ∀ leaf ∈ SerialNumbers.leaves,
      leaf.get d'.battery.serialNumbers = leaf.get d.battery.serialNumbers := by
    intro leaf hleaf
    have hbattery : leaf.inside "serial_numbers" Battery.serialNumbers ∈ Battery.leaves :=
      List.mem_append_right _ (List.mem_map_of_mem hleaf)
    have hmem : (leaf.inside "serial_numbers" Battery.serialNumbers).inside "battery" battery ∈
        leaves := by
      simp only [leaves, List.mem_append]
      exact Or.inl (Or.inl (Or.inl (Or.inr (List.mem_map_of_mem hbattery))))
    have hfollows := ((becomes_iff hd hpatch).mp h).2 _ hmem
    rw [Leaf.follows_of_none (hspares leaf hleaf)] at hfollows
    exact hfollows
  -- The towers are all that there is of serial numbers.
  generalize d'.battery.serialNumbers = n', d.battery.serialNumbers = n at hleaf
  obtain ⟨hfirst, hsecond, hthird, -⟩ := by
    simpa only [SerialNumbers.leaves, List.forall_mem_cons] using hleaf
  cases n
  cases n'
  simp_all

/-- A patch that is accepted makes data that can be read. -/
theorem Session.becomes_of_patched {s : Session} {patch : Members} {d : Installation}
    (h : s.patched patch = .ok d) : s.data.Becomes patch d := by
  unfold patched at h
  split at h
  · cases h
  split at h
  · next data hdata =>
    split at h
    · cases h
      exact hdata
    · cases h
  · cases h

theorem Session.data_selected {s s' : Session} {system : StorageSystem}
    (h : s.selected system = .ok s') : s'.data = s.data := by
  unfold selected at h
  split at h
  · cases h
    rfl
  split at h
  · cases h
  · obtain ⟨view, -, hview⟩ := exists_of_bind_eq_ok (eq_ok_of_mapError h)
    cases hview
    rfl

theorem Session.data_bound {s s' : Session} {edge : Edge} (h : s.bound edge = .ok s') :
    s'.data = s.data := by
  unfold bound at h
  split at h
  · cases h
  · cases h
    rfl

theorem Session.data_forward {s s' : Session} (h : s.forward.2 = some s') : s'.data = s.data := by
  unfold forward at h
  split at h
  · cases h
    rfl
  · cases h

namespace Operation

variable {s s' : Session} {o : Operation}

theorem data_replaced {x : Except AssistantError Session}
    (h : ∀ s'', x = .ok s'' → s''.data = s.data) (hs' : (replaced s x).2 = some s') :
    s'.data = s.data := by
  cases x with
  | error e =>
    cases hs'
    rfl
  | ok s'' =>
    cases hs'
    exact h _ rfl

/-- All operations but updates leave the data as they are. -/
theorem data_onSession (ho : ∀ patch, o ≠ .updateData patch) (hs' : (o.onSession s).2 = some s') :
    s'.data = s.data := by
  cases o with
  | inspect =>
    cases hs'
    rfl
  | abandon => cases hs'
  | bindEdge edge => exact data_replaced (fun s'' => Session.data_bound) hs'
  | selectSystem systemId =>
    rw [onSession] at hs'
    split at hs'
    · cases hs'
      rfl
    · exact data_replaced (fun s'' => Session.data_selected) hs'
  | updateData patch => exact absurd rfl (ho patch)
  | advance =>
    rw [onSession] at hs'
    split at hs'
    · cases hs'
      rfl
    · exact Session.data_forward hs'
  | retreat =>
    rw [onSession] at hs'
    split at hs' <;> cases hs' <;> rfl
  | jumpTo index =>
    rw [onSession] at hs'
    split at hs'
    · cases hs'
      rfl
    · split at hs' <;> cases hs' <;> rfl

theorem serialNumbers_onSession (hs : s.data.InBounds)
    (hspares : (Act.operate o).SparesSerialNumbers) (hs' : (o.onSession s).2 = some s') :
    s'.data.battery.serialNumbers = s.data.battery.serialNumbers := by
  by_cases ho : ∃ patch, o = .updateData patch
  · obtain ⟨patch, rfl⟩ := ho
    rw [onSession] at hs'
    cases hpatched : s.patched patch with
    | error e =>
      rw [hpatched] at hs'
      cases hs'
      rfl
    | ok d =>
      rw [hpatched] at hs'
      cases hs'
      exact Installation.serialNumbers_of_becomes (Session.becomes_of_patched hpatched) hs hspares
  · rw [data_onSession (fun patch heq => ho ⟨patch, heq⟩) hs']

end Operation

/-- A submission that ends leaves the serial numbers that it has in hand. -/
theorem Submission.serialNumbers_of_concluded {p : Submission}
    {answer : Except GatewayError String} {result : SubmissionResult} {s : Session}
    (h : p.concluded answer = .ok (result, some s)) :
    s.data.battery.serialNumbers = p.session.data.battery.serialNumbers := by
  rcases answer with why | protocolId
  · cases why with
    | rejected status detail =>
      have hforward : p.session.forward.2 = some s := (Prod.mk.inj (Except.ok.inj h)).2
      rw [Session.data_forward hforward]
    | _ => cases h
  · have hforward : (p.session.withProtocolId protocolId).forward.2 = some s :=
      (Prod.mk.inj (Except.ok.inj h)).2
    rw [Session.data_forward hforward]
    rfl

/-! ### Runs -/

/-- **These are the serial numbers**, on record and in hand. -/
structure Slot.Has (n : SerialNumbers) (slot : Slot) : Prop where
  session : ∀ s ∈ slot.session, s.data.battery.serialNumbers = n
  waiting : ∀ p ∈ slot.waiting, p.session.data.battery.serialNumbers = n

/-- **An act that keeps off the serial numbers**, or leaves those on record as they are, leaves also
those in hand. -/
theorem Slot.Has.onSlot {n : SerialNumbers} {slot : Slot} (h : slot.Has n) {act : Act}
    (fallback : SerialNumberDefaults) (id : String)
    (hbounds : ∀ s ∈ slot.session, s.data.InBounds) (hcreate : ∀ edge, act ≠ .create edge)
    (hact : act.SparesSerialNumbers ∨
      ∀ s ∈ slot.session, ∀ s' ∈ (act.onSlot fallback id slot).2.session,
        s'.data.battery.serialNumbers = s.data.battery.serialNumbers) :
    (act.onSlot fallback id slot).2.Has n := by
  obtain ⟨session, waiting⟩ := slot
  cases act with
  | create edge => exact absurd rfl (hcreate edge)
  | operate o =>
    refine ⟨?_, h.waiting⟩
    rcases session with _ | s
    · exact h.session
    · intro s' hs'
      have hkept : s'.data.battery.serialNumbers = s.data.battery.serialNumbers :=
        hact.elim (fun hspares => o.serialNumbers_onSession (hbounds s rfl) hspares hs')
          fun hseen => hseen s rfl s' hs'
      exact hkept.trans (h.session s rfl)
  | submit counts towers =>
    have hseen := hact.resolve_left fun hspares => hspares
    rcases waiting with _ | p
    · rcases session with _ | s
      · exact h
      · rcases hp : s.submission id fallback counts towers with e | p
        · simp only [Act.onSlot, hp]
          exact h
        · simp only [Act.onSlot, hp] at hseen ⊢
          have hkept := (hseen s rfl p.session rfl).trans (h.session s rfl)
          constructor
          · rintro _ ⟨⟩
            exact hkept
          · rintro _ ⟨⟩
            exact hkept
    · exact h
  | conclude answer =>
    rcases waiting with _ | p
    · exact h
    · rcases hconcluded : p.concluded answer with e | ⟨result, record⟩
      · simp only [Act.onSlot, hconcluded]
        exact ⟨h.session, by rintro q ⟨⟩⟩
      · simp only [Act.onSlot, hconcluded]
        refine ⟨?_, by rintro q ⟨⟩⟩
        rintro s ⟨⟩
        exact (Submission.serialNumbers_of_concluded hconcluded).trans (h.waiting p rfl)

namespace Traffic

/-- **A turn keeps the serial numbers** of its session: it keeps off them, or is seen to leave them
as they are. -/
def StepKeepsSerialNumbers (t : Traffic) (turn : Turn) : Prop :=
  turn.act.SparesSerialNumbers ∨
    ∀ s a s' a', Assistant.load turn.id t.assistant = .ok s a →
      Assistant.load turn.id (t.step turn).2.assistant = .ok s' a' →
      s'.data.battery.serialNumbers = s.data.battery.serialNumbers

/-- **A run keeps the serial numbers** of a session: each of the turns of the session does. -/
def RunKeepsSerialNumbers (id : String) (t : Traffic) (turns : List Turn) : Prop :=
  ∀ window turn rest, turns = window ++ turn :: rest → turn.id = id →
    StepKeepsSerialNumbers (t.run window).2 turn

theorem RunKeepsSerialNumbers.left {id : String} {t : Traffic} {turns turns' : List Turn}
    (h : RunKeepsSerialNumbers id t (turns ++ turns')) : RunKeepsSerialNumbers id t turns := by
  intro window turn rest hturns
  exact h window turn (rest ++ turns') (by rw [hturns, List.append_assoc, List.cons_append])

/-- **One turn** that keeps the serial numbers. -/
theorem Follows.step_has {t : Traffic} {l : Ledger} (h : t.Follows l) {turn : Turn}
    {fallback : SerialNumberDefaults} (hnext : (t.step turn).2.Follows (l.step fallback turn).2)
    (hcreate : ∀ edge, turn.act ≠ .create edge) (hkept : StepKeepsSerialNumbers t turn)
    {n : SerialNumbers} (hslot : (l turn.id).Has n) : ((l.step fallback turn).2 turn.id).Has n := by
  rw [Ledger.step_self]
  refine hslot.onSlot fallback turn.id (fun s hs => ?_) hcreate (hkept.imp_right ?_)
  · have hheld := h.held turn.id
    rw [Option.mem_def.mp hs] at hheld
    exact hheld.1.data
  · intro hseen s hs s' hs'
    rw [← Ledger.step_self] at hs'
    exact hseen s _ s' _ (h.load hs) (hnext.load hs')

section Start

variable (settings : Settings) (gateway : Gateway) (feed : Option Feed) (kind : StoreKind)

/-- **Through turns that keep them**, the serial numbers stay, on record and in hand. -/
theorem run_has {begun : List Turn} {id : String} {n : SerialNumbers}
    (h : ((Ledger.empty.run settings.fallbackDefaults begun).2 id).Has n)
    (hid : id ∈ creations begun) {later : List Turn} (hproper : Proper (begun ++ later))
    (hkept : RunKeepsSerialNumbers id ((start settings gateway feed kind).run begun).2 later) :
    ((Ledger.empty.run settings.fallbackDefaults (begun ++ later)).2 id).Has n := by
  induction later using List.reverseRecOn with
  | nil => rwa [List.append_nil]
  | append_singleton later turn ih =>
    have hlast : Proper (begun ++ later ++ [turn]) := by rwa [List.append_assoc]
    have hslot := ih hlast.left hkept.left
    obtain ⟨-, hfollows, -⟩ := run_follows settings gateway feed kind hlast.left
    obtain ⟨-, hnext⟩ := run_step_follows settings gateway feed kind hlast
    rw [← List.append_assoc, Ledger.run_append]
    show (((Ledger.empty.run settings.fallbackDefaults (begun ++ later)).2.step
      settings.fallbackDefaults turn).2 id).Has n
    by_cases hturn : id = turn.id
    · subst hturn
      rw [run_append] at hfollows hnext
      have hcreate := ne_create_of_not_mem (hproper.not_mem_later hid) turn
        (List.mem_append_right _ (List.mem_singleton_self _)) rfl
      exact Follows.step_has hfollows hnext hcreate (hkept later turn [] rfl rfl) hslot
    · rwa [Ledger.step_of_ne _ _ hturn]

/-- The serial numbers of a submission are those of the session that is loaded later on. -/
theorem serialNumbers_of_load {begun later : List Turn} {id : String} {p : Submission}
    (hproper : Proper (begun ++ later))
    (hrecord : (Ledger.empty.run settings.fallbackDefaults begun).2 id = ⟨some p.session, some p⟩)
    (hkept : RunKeepsSerialNumbers id ((start settings gateway feed kind).run begun).2 later)
    {s : Session} {a : Assistant}
    (hload : Assistant.load id
      (((start settings gateway feed kind).run begun).2.run later).2.assistant = .ok s a) :
    s.data.battery.serialNumbers = p.session.data.battery.serialNumbers := by
  have hcreated : id ∈ creations begun :=
    Ledger.mem_creations_of_ne (by rw [hrecord]; rintro ⟨⟩)
  have hhas : ((Ledger.empty.run settings.fallbackDefaults begun).2 id).Has
      p.session.data.battery.serialNumbers := by
    rw [hrecord]
    exact ⟨by rintro _ ⟨⟩; rfl, by rintro _ ⟨⟩; rfl⟩
  have hlater := run_has settings gateway feed kind hhas hcreated hproper hkept
  obtain ⟨-, hfollows, -⟩ := run_follows settings gateway feed kind hproper
  rw [run_append] at hfollows
  exact hlater.session s (hfollows.session_of_load hload)

/-- **What was submitted for the inverter is proposed for it**, whenever the form is shown after
turns that keep the serial numbers, if the device reports none. The text is that of the first lot
of the protocol. -/
theorem inverter_remembered {before later : List Turn} {id : String} {counts : Members}
    {towers : TowerValues} {p : Submission}
    (hproper : Proper (before ++ [⟨id, .submit counts towers⟩] ++ later))
    (hbegun : (((start settings gateway feed kind).run before).2.step
      ⟨id, .submit counts towers⟩).1 = .ok (.calling p)) :
    let begun := ((start settings gateway feed kind).run
      (before ++ [⟨id, .submit counts towers⟩])).2
    let now := (begun.run later).2.assistant
    RunKeepsSerialNumbers id begun later →
    ∃ v text, (towers.ofTower .first).get? "batteryInverter" = some v ∧ v.isBlank = false ∧
      v.display? = some text ∧
      p.protocol.lots.head? = some ⟨Tower.first.lotCategory, s!"{inverterLabel} Seriennummer",
        v.trimmed⟩ ∧
      ∀ s a, Assistant.load id now = .ok s a →
        ∀ broker numberOfTowers modules proposal,
          Assistant.Proposes broker s now numberOfTowers modules proposal → proposal.IsSilent →
            ∃ schema a' fs rest,
              Assistant.serialNumberForm broker id numberOfTowers modules now = .ok schema a' ∧
              schema.towers =
                (.first, StorageSystem.inverterField (some v.trimmed) :: fs) :: rest := by
  intro begun now hkept
  obtain ⟨hready, hrecord, -⟩ := begun_submission settings gateway feed kind hproper.left hbegun
  obtain rfl := hready.id_eq
  obtain ⟨houtcome, -⟩ := run_step_follows settings gateway feed kind hproper.left
  rw [hbegun] at houtcome
  obtain ⟨⟨s₀, -, hsubmission⟩, -⟩ := Act.onSlot_submit houtcome.symm
  obtain ⟨haccepted, hlots⟩ := Session.accepted_of_submission hsubmission
  obtain ⟨v, text, hvalue, hblank, htext, hinverter⟩ :=
    Assistant.hasInverter_of_acceptForm haccepted
  have hne : v.trimmed ≠ "" := Json.trimmed_ne_empty hblank htext
  refine ⟨v, text, hvalue, hblank, htext, hlots ▸ hinverter.head_lots hne, ?_⟩
  intro s a hload broker numberOfTowers modules proposal hproposes hsilent
  rw [← serialNumbers_of_load settings gateway feed kind hproper hrecord hkept hload] at hinverter
  obtain rfl := (Assistant.load_eq_ok_iff.mp hload).2
  exact Assistant.exists_form_of_known hload (hinverter.inverterSerial? hne) hproposes hsilent

end Start

/-- The gateway refuses the protocol, and the session goes on with another device. -/
def refusedTurns : List Turn :=
  [⟨"a", .conclude (.error (.rejected 503 ""))⟩, ⟨"a", .operate .retreat⟩,
   ⟨"a", .operate (.bindEdge { id := "edge1" })⟩]

/-- The serial number is proposed again. -/
theorem inverter_remembered_refused :
    let begun := ((start {} default none .memory).run
      (approachTurns ++ [⟨"a", .submit formCounts formTowers⟩])).2
    let now := (begun.run refusedTurns).2.assistant
    ∃ schema a' fs rest,
      Assistant.serialNumberForm (fun _ => .refused) "a" (some 1) (some 4) now = .ok schema a' ∧
      schema.towers =
        (.first, StorageSystem.inverterField (some "IN1234567890") :: fs) :: rest := by
  dsimp only
  have hbegun : Proper (approachTurns ++ [⟨"a", .submit formCounts formTowers⟩]) :=
    proper_submissionTurns
  have hproper : Proper (approachTurns ++ [⟨"a", .submit formCounts formTowers⟩] ++
      refusedTurns) := by
    refine hbegun.extend ?_ rfl
    simp only [refusedTurns, List.forall_mem_cons]
    exact ⟨trivial, trivial, ⟨by decide, by decide⟩, by rintro turn ⟨⟩⟩
  have hkept : RunKeepsSerialNumbers "a" ((start {} default none .memory).run
      (approachTurns ++ [⟨"a", .submit formCounts formTowers⟩])).2 refusedTurns := by
    have hspares : ∀ turn ∈ refusedTurns, turn.act.SparesSerialNumbers := by
      simp [refusedTurns, Act.SparesSerialNumbers]
    intro window turn rest hturns _
    exact Or.inl (hspares turn (by simp [hturns]))
  obtain ⟨houtcome, -⟩ := run_step_follows {} default none .memory hbegun
  have hcalling : (calling? ((Ledger.empty.run ({} : Settings).fallbackDefaults
      approachTurns).2.step ({} : Settings).fallbackDefaults
        ⟨"a", .submit formCounts formTowers⟩).1).isSome = true := by decide +kernel
  obtain ⟨p, hp⟩ := eq_calling_of_isSome hcalling
  obtain ⟨v, text, hvalue, -, -, -, hshown⟩ :=
    inverter_remembered {} default none .memory hproper (houtcome.trans hp) hkept
  -- The session is on record after these turns.
  have hrecord : (((Ledger.empty.run ({} : Settings).fallbackDefaults
      (approachTurns ++ [⟨"a", .submit formCounts formTowers⟩])).2.run
        ({} : Settings).fallbackDefaults refusedTurns).2 "a").session.isSome = true := by
    decide +kernel
  obtain ⟨s, hs⟩ := Option.isSome_iff_exists.mp hrecord
  obtain ⟨-, hfollows, -⟩ := run_follows_later {} default none .memory hproper
  have hloaded := hfollows.load hs
  have hentered : (formTowers.ofTower .first).get? "batteryInverter" =
      some (.str "IN1234567890") := rfl
  obtain rfl := Option.some.inj (hvalue.symm.trans hentered)
  have htrimmed : (Json.str "IN1234567890").trimmed = "IN1234567890" := by decide +kernel
  rw [htrimmed] at hshown
  exact hshown s _ hloaded (fun _ => .refused) (some 1) (some 4) (.input 1 4) (.input 1 4)
    (Or.inl rfl)

end Traffic

end Commissioning
