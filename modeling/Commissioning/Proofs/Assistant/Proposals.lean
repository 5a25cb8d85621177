import Commissioning.Proofs.Assistant.Form
import Commissioning.Proofs.Assistant.Submitting
import Commissioning.Proofs.Assistant.Traffic
import Commissioning.Proofs.SerialNumber.WellFormed

/-!
# What a form proposes

Some fields of a form for serial numbers are shown with a value, and whoever leaves such a field as
it is should not be told that the value is wrong. The values come from four places: those of most
components are fixed, the counts are clamped, and the serial number of the inverter is what the
device has reported, or else what the session knows (`Commissioning.Proposal`).

All of these values are accepted but the last (`Commissioning.StorageSystem.check_default`). A
serial number that is empty is not proposed; one that consists of blanks is, and a field that must
not be left empty counts blanks as nothing. So **a form accepts what it proposes exactly if no
serial number of blanks is reported or known** (`Commissioning.Assistant.served_proposals`). One can
be reported by a device, and one can be patched into the data of a session
(`Commissioning.Assistant.not_always_accepted`).
-/

namespace Commissioning

/-! ### The fields of a form -/

/-- **A form accepts what it is shown with**, where it is shown with anything. -/
structure SerialNumberSchema.AcceptsShown (schema : SerialNumberSchema) : Prop where
  settings : ∀ f ∈ schema.settings, f.default ≠ .null → f.check f.default = .ok none
  towers : ∀ p ∈ schema.towers, ∀ f ∈ p.2, f.default ≠ .null → f.check f.default = .ok none

namespace StorageSystem

variable {s : StorageSystem} {proposed : SerialNumberDefaults} {f : Field}

/-- The fields for the counts accept the clamped ones. -/
theorem check_count (hf : f ∈ (s.serialNumberSchema proposed).settings) :
    f.default ≠ .null ∧ f.check f.default = .ok none := by
  obtain ⟨hroom, htowers, hleast, hmost⟩ := s.bounds_spec
  obtain ⟨t, m, hclamp, ht, hm⟩ := exists_clamp s proposed
  have hsettings : (s.serialNumberSchema proposed).settings = s.countFields t m := by
    rw [serialNumberSchema, hclamp]
  have hcounts : (1 ≤ (t : Int) ∧ (t : Int) ≤ s.maxSerialNumberTowers) ∧
      s.minModulesPerTower ≤ (m : Int) ∧ (m : Int) ≤ s.maxModulesPerTower := by omega
  have hchecked := checkSettings_countFields hcounts.1 hcounts.2
  rw [hsettings] at hf
  rcases List.mem_pair.mp hf with rfl | rfl
  · exact ⟨Json.noConfusion, check_of_checkSettings hchecked _ List.mem_cons_self⟩
  · exact ⟨Json.noConfusion,
      check_of_checkSettings hchecked _ (List.mem_cons_of_mem _ List.mem_cons_self)⟩

/-- The field for the inverter, with what is proposed for it. -/
def inverterField (inverter : Option String) : Field :=
  { key := "batteryInverter", label := inverterLabel, required := true,
    default := Json.ofOptionStr inverter }

/-- The field for the inverter takes any text but one of blanks. -/
theorem check_inverterField (inverter : Option String) (text : String) :
    (inverterField inverter).check (.str text) =
      .ok (if Text.isEmptyText text then some .missing else none) := by
  have htext : (inverterField inverter).IsText := ⟨rfl, rfl⟩
  rw [Field.check_text htext rfl, Field.objection?]
  cases hempty : Text.isEmptyText text <;>
    simp [Json.isBlank, hempty, inverterField, Field.checkOptions]

theorem inverterField_mem (s : StorageSystem) (proposed : SerialNumberDefaults) :
    ∃ fs, (.first, fs) ∈ (s.serialNumberSchema proposed).towers ∧
      inverterField proposed.inverter ∈ fs := by
  refine ⟨_, (s.mem_towers .first).mpr ⟨s.first_mem_take proposed, rfl⟩, List.mem_cons_self⟩

/-- **A component that is shown with a value** accepts it, unless it is the inverter. -/
theorem check_default {p : Tower × List Field} (hp : p ∈ (s.serialNumberSchema proposed).towers)
    (hf : f ∈ p.2) (hshown : f.default ≠ .null) :
    f.check f.default = .ok none ∨ p.1 = .first ∧ f = inverterField proposed.inverter := by
  obtain ⟨t, fs⟩ := p
  obtain ⟨-, rfl⟩ := (s.mem_towers t).mp hp
  rcases mem_boxFields_or_accepts hf with hbox | ⟨haccepts, -⟩
  · obtain ⟨rfl, hkey⟩ := s.inverter_of_proposed t _ hbox hshown
    rcases List.mem_pair.mp hbox with rfl | rfl
    · exact Or.inr ⟨rfl, rfl⟩
    · exact absurd rfl hshown
  · exact Or.inl haccepts

/-- **A form accepts what it is shown with** exactly if no inverter of blanks is proposed. -/
theorem acceptsShown_iff (s : StorageSystem) (proposed : SerialNumberDefaults) :
    (s.serialNumberSchema proposed).AcceptsShown ↔
      ∀ text ∈ proposed.inverter, Text.isEmptyText text = false := by
  constructor
  · intro h text htext
    obtain ⟨fs, hfs, hf⟩ := s.inverterField_mem proposed
    have hdefault : (inverterField proposed.inverter).default = .str text := by
      rw [Option.mem_def.mp htext]
      rfl
    have hcheck := h.towers _ hfs _ hf (by rw [hdefault]; exact nofun)
    rw [hdefault, check_inverterField] at hcheck
    cases hempty : Text.isEmptyText text with
    | false => rfl
    | true =>
      rw [hempty] at hcheck
      cases hcheck
  · intro h
    refine ⟨fun f hf _ => (check_count hf).2, fun p hp f hf hshown => ?_⟩
    rcases check_default hp hf hshown with haccepts | ⟨-, rfl⟩
    · exact haccepts
    · cases hinverter : proposed.inverter with
      | none =>
        rw [hinverter] at hshown
        exact absurd rfl hshown
      | some text =>
        have hcheck := check_inverterField (some text) text
        rw [h text hinverter] at hcheck
        exact hcheck

end StorageSystem

/-! ### Where the values come from -/

/-- Where the counts on a form come from. -/
inductive Proposal where
  /-- A request has both. -/
  | input (towers modules : Int)
  /-- The device is asked. -/
  | asked (answer : LiveAnswer)

namespace Proposal

/-- What is proposed. -/
def defaults (settings : Settings) : Proposal → Except NumberError SerialNumberDefaults
  | .input towers modules => .ok { towers, modules, source := .input }
  | .asked answer => answer.toDefaults settings

/-- What the device reports as the serial number of its inverter. -/
def reported : Proposal → Json
  | .asked (.sample s) => s.value inverterChannel
  | _ => .null

/-- Nothing is reported as the serial number of the inverter. -/
def IsSilent (p : Proposal) : Prop := p.reported = .null ∨ p.reported = .str ""

variable {p : Proposal} {settings : Settings} {d : SerialNumberDefaults}

/-- What is reported is shown, unless it is nothing. -/
theorem inverter_defaults (h : p.defaults settings = .ok d) :
    p.IsSilent ∧ d.inverter = none ∨
      ¬p.IsSilent ∧ ∃ text, p.reported.display? = some text ∧ d.inverter = some text := by
  match p with
  | .input towers modules =>
    cases h
    exact Or.inl ⟨Or.inl rfl, rfl⟩
  | .asked .unavailable =>
    cases h
    exact Or.inl ⟨Or.inl rfl, rfl⟩
  | .asked .timeout =>
    cases h
    exact Or.inl ⟨Or.inl rfl, rfl⟩
  | .asked (.sample sample) =>
    obtain ⟨inverter, hinverter, h⟩ := exists_of_bind_eq_ok h
    cases h
    unfold Sample.inverter at hinverter
    split at hinverter
    · next hnull =>
      cases hinverter
      exact Or.inl ⟨Or.inl hnull, rfl⟩
    · next hempty =>
      cases hinverter
      exact Or.inl ⟨Or.inr hempty, rfl⟩
    · next hnull hempty =>
      refine Or.inr ⟨fun hsilent => hsilent.elim hnull hempty, ?_⟩
      have hreported : (Proposal.asked (.sample sample)).reported =
          sample.value inverterChannel := rfl
      rw [hreported]
      cases hdisplay : (sample.value inverterChannel).display with
      | ok text =>
        rw [hdisplay] at hinverter
        cases hinverter
        exact ⟨text, Json.display_eq_ok_iff.mp hdisplay, rfl⟩
      | error e =>
        rw [hdisplay] at hinverter
        cases hinverter

/-- Where nothing is reported, counts are proposed. -/
theorem IsSilent.exists_defaults (h : p.IsSilent) (settings : Settings) :
    ∃ d, p.defaults settings = .ok d ∧ d.inverter = none := by
  match p with
  | .input towers modules => exact ⟨_, rfl, rfl⟩
  | .asked .unavailable => exact ⟨_, rfl, rfl⟩
  | .asked .timeout => exact ⟨_, rfl, rfl⟩
  | .asked (.sample sample) =>
    have hinverter : Sample.inverter sample = .ok none := by
      unfold Sample.inverter
      rcases h with hvalue | hvalue
      · rw [show sample.value inverterChannel = .null from hvalue]
      · rw [show sample.value inverterChannel = .str "" from hvalue]
        rfl
    refine ⟨{
      towers := (sample.value towersChannel).countReading?.getD settings.defaultTowers
      modules := (sample.value modulesChannel).countReading?.getD settings.defaultModules
      source := .live }, ?_, rfl⟩
    rw [defaults, LiveAnswer.toDefaults, hinverter]
    rfl

end Proposal

namespace Session

/-- **A serial number of blanks is proposed** for the inverter: it is reported, or nothing is and it
is known. -/
def ProposesBlank (s : Session) (p : Proposal) : Prop :=
  (∃ text, p.reported = .str text ∧ text ≠ "" ∧ Text.isEmptyText text = true) ∨
    p.IsSilent ∧ ∃ text, s.data.inverterSerial? = some text ∧ Text.isEmptyText text = true

theorem proposesBlank_iff {s : Session} {p : Proposal} {settings : Settings}
    {d : SerialNumberDefaults} (h : p.defaults settings = .ok d) :
    s.ProposesBlank p ↔ ∃ text ∈ (d.orInverter s.data.inverterSerial?).inverter,
      Text.isEmptyText text = true := by
  rcases Proposal.inverter_defaults h with ⟨hsilent, hnone⟩ | ⟨hsaid, text, htext, hsome⟩
  · have hknown : (d.orInverter s.data.inverterSerial?).inverter = s.data.inverterSerial? := by
      rw [SerialNumberDefaults.orInverter, hnone]
    rw [hknown]
    constructor
    · rintro (⟨text, hreported, hne, -⟩ | ⟨-, hblank⟩)
      · rcases hsilent with h | h <;> rw [hreported] at h
        · cases h
        · exact absurd (Json.str.inj h) hne
      · exact hblank
    · exact fun hblank => Or.inr ⟨hsilent, hblank⟩
  · have hreported : (d.orInverter s.data.inverterSerial?).inverter = some text := by
      rw [SerialNumberDefaults.orInverter, hsome]
      exact hsome
    rw [hreported]
    constructor
    · rintro (⟨text', htext', -, hblank⟩ | ⟨hsilent, -⟩)
      · rw [htext'] at htext
        obtain rfl := Option.some.inj htext
        exact ⟨_, rfl, hblank⟩
      · exact absurd hsilent hsaid
    · rintro ⟨_, ⟨⟩, hblank⟩
      -- Of what is shown, only a text can be of blanks, and an empty one is not reported.
      refine Or.inl ⟨text, ?_, Json.display?_ne_empty htext fun h => hsaid (Or.inr h), hblank⟩
      cases hjson : p.reported with
      | str text' =>
        rw [hjson] at htext
        exact congrArg Json.str (Option.some.inj htext)
      | null => exact absurd (Or.inl hjson) hsaid
      | _ =>
        rw [hjson] at htext
        rw [Json.isEmptyText_display? rfl htext] at hblank
        cases hblank

end Session

namespace Assistant

/-- **How counts come to be proposed** for a session, by what a request has of them. -/
inductive Proposes (broker : Broker) (s : Session) (a : Assistant) :
    Option Int → Option Int → Proposal → Prop where
  /-- A request that has both. -/
  | input (towers modules : Int) :
    Proposes broker s a (some towers) (some modules) (.input towers modules)
  /-- The device is asked, as the request has not. -/
  | asked {towers modules : Option Int} {answer : LiveAnswer} {a' : Assistant} :
    towers = none ∨ modules = none → ask broker .counts s.edgeId? a = .ok answer a' →
      Proposes broker s a towers modules (.asked answer)

variable {broker : Broker} {id : String} {s : Session} {towers modules : Option Int}
  {a a' : Assistant} {d : SerialNumberDefaults} {schema : SerialNumberSchema}

theorem settings_ask {answer : LiveAnswer} (h : ask broker .counts s.edgeId? a = .ok answer a') :
    a'.settings = a.settings := by
  have hkept := keeps_unfed_ask broker .counts s.edgeId? a
  rw [after_of_ok h] at hkept
  have hsettings := congrArg Assistant.settings hkept
  exact hsettings

theorem ok_of_ofExcept {ε α : Type} {wrap : ε → AssistantError} {x : Except ε α} {y : α}
    (h : ofExcept wrap x a = .ok y a') : x = .ok y := by
  cases x with
  | ok _ =>
    cases h
    rfl
  | error _ => cases h

theorem proposes_of_proposedCounts (h : proposedCounts broker s towers modules a = .ok d a') :
    ∃ p, Proposes broker s a towers modules p ∧ p.defaults a.settings = .ok d := by
  unfold proposedCounts at h
  split at h
  · next towers modules =>
    cases h
    exact ⟨.input towers modules, .input towers modules, rfl⟩
  · next hpartly =>
    have hpartly : towers = none ∨ modules = none := by
      cases towers <;> cases modules <;> simp_all
    obtain ⟨answer, a₁, hask, h⟩ := bind_eq_ok h
    obtain ⟨_, _, hget, h⟩ := bind_eq_ok h
    cases hget
    have hdefaults := ok_of_ofExcept h
    rw [settings_ask hask] at hdefaults
    exact ⟨.asked answer, .asked hpartly hask, hdefaults⟩

/-- What comes to be proposed is shown. -/
theorem serialNumberForm_of_proposes (hload : load id a = .ok s a) {p : Proposal}
    (hproposes : Proposes broker s a towers modules p) (hd : p.defaults a.settings = .ok d) :
    ∃ a', serialNumberForm broker id towers modules a = .ok (s.form d) a' := by
  rw [serialNumberForm, bind_of_ok hload]
  cases hproposes with
  | input towers modules =>
    cases hd
    exact ⟨a, rfl⟩
  | @asked _ _ answer a' hpartly hask =>
    have hasked : proposedCounts broker s towers modules a = .ok d a' := by
      unfold proposedCounts
      split
      · simp at hpartly
      · have hd' : answer.toDefaults a'.settings = .ok d := by
          rw [settings_ask hask]
          exact hd
        rw [bind_of_ok hask]
        show ofExcept .unwritable (answer.toDefaults a'.settings) a' = _
        rw [hd']
        rfl
    exact ⟨a', by rw [bind_of_ok hasked]; rfl⟩

/-- **What a form proposes is accepted**, unless a serial number of blanks is proposed for the
inverter. -/
theorem served_proposals (h : serialNumberForm broker id towers modules a = .ok schema a') :
    ∃ s p d, load id a = .ok s a ∧ Proposes broker s a towers modules p ∧
      p.defaults a.settings = .ok d ∧ schema = s.form d ∧
      (∀ f ∈ schema.settings, f.default ≠ .null ∧ f.check f.default = .ok none) ∧
      (∀ t fs f, (t, fs) ∈ schema.towers → f ∈ fs → f.default ≠ .null →
        f.check f.default = .ok none ∨
          (t = .first ∧ f.key = "batteryInverter" ∧ s.ProposesBlank p ∧
            f.check f.default = .ok (some .missing))) ∧
      (schema.AcceptsShown ↔ ¬s.ProposesBlank p) := by
  obtain ⟨s, _, hload, hform⟩ := bind_eq_ok h
  obtain rfl := (load_eq_ok_iff.mp hload).2
  obtain ⟨d, _, hcounts, hreturn⟩ := bind_eq_ok hform
  cases hreturn
  obtain ⟨p, hproposes, hd⟩ := proposes_of_proposedCounts hcounts
  refine ⟨s, p, d, hload, hproposes, hd, rfl, fun f hf => StorageSystem.check_count hf, ?_, ?_⟩
  · intro t fs f ht hf hshown
    rcases StorageSystem.check_default ht hf hshown with haccepts | ⟨rfl, rfl⟩
    · exact Or.inl haccepts
    · cases hinverter : (d.orInverter s.data.inverterSerial?).inverter with
      | none =>
        rw [hinverter] at hshown
        exact absurd rfl hshown
      | some text =>
        have hcheck := StorageSystem.check_inverterField (some text) text
        cases hblank : Text.isEmptyText text with
        | false =>
          rw [hblank] at hcheck
          exact Or.inl hcheck
        | true =>
          rw [hblank] at hcheck
          exact Or.inr ⟨rfl, rfl,
            (Session.proposesBlank_iff hd).mpr ⟨text, hinverter, hblank⟩, hcheck⟩
  · rw [Session.proposesBlank_iff hd, Session.form, StorageSystem.acceptsShown_iff]
    simp

/-! ### A serial number of blanks -/

/-- A patch with a blank for the serial number of the inverter. -/
def blankPatch : Members :=
  [("battery", .obj [("serial_numbers", .obj
    [("tower1", .arr [.obj [("label", .str inverterLabel), ("value", .str " ")]])])])]

/-- What it makes of the data of a new session. -/
def blankData : Installation :=
  { battery := { serialNumbers := { tower1 := [⟨inverterLabel, some " "⟩] } } }

/-- The session with the blank. -/
def blankSession : Session :=
  { system := .home, data := blankData, viewIndex := 12, edge := some { id := "edge0" } }

/-- A session is brought to its serial numbers, and gets the blank. -/
def blankTurns : List Turn := approachTurns ++ [⟨"a", .operate (.updateData blankPatch)⟩]

theorem proper_blankTurns : Proper blankTurns :=
  proper_submissionTurns.left.extend (by simp [Act.InBounds, Operation.InBounds]) rfl

theorem patched_blankPatch :
    ({ blankSession with data := {} } : Session).patched blankPatch = .ok blankData := by
  have hbecomes : Installation.ofMembers .value
      (Json.merge ({} : Installation).members blankPatch) = .valid blankData := rfl
  have hwritable : blankData.IsWritable := by decide
  rw [Session.patched, if_neg (by decide), hbecomes]
  exact if_pos hwritable

theorem run_blankTurns (fallback : SerialNumberDefaults) :
    ((Ledger.empty.run fallback blankTurns).2 "a").session = some blankSession := by
  have hbrought : (Ledger.empty.run fallback approachTurns).2 "a" =
      ⟨some { blankSession with data := {} }, none⟩ := rfl
  have hturn := Ledger.step_self fallback (Ledger.empty.run fallback approachTurns).2
    ⟨"a", .operate (.updateData blankPatch)⟩
  rw [hbrought, Act.onSlot, Operation.onRecord, Operation.onSession, patched_blankPatch] at hturn
  rw [blankTurns, Ledger.run_append]
  exact congrArg Slot.session hturn

/-- What is proposed for the session with the blank. -/
theorem serialNumberForm_blank (broker : Broker) :
    let a := ((Traffic.start {} default none .memory).run blankTurns).2.assistant
    load "a" a = .ok blankSession a ∧
      serialNumberForm broker "a" (some 1) (some 4) a = .ok (blankSession.shownForm 1 4) a := by
  intro a
  obtain ⟨-, hfollows, -⟩ := Traffic.run_follows {} default none .memory proper_blankTurns
  have hload : load "a" a = .ok blankSession a :=
    hfollows.load (run_blankTurns ({} : Settings).fallbackDefaults)
  refine ⟨hload, ?_⟩
  rw [serialNumberForm, bind_of_ok hload]
  rfl

/-- The blank is proposed, and not accepted. -/
theorem served_proposals_blank :
    let a := ((Traffic.start {} default none .memory).run blankTurns).2.assistant
    serialNumberForm (fun _ => .refused) "a" (some 1) (some 4) a =
        .ok (blankSession.shownForm 1 4) a ∧
      blankSession.ProposesBlank (.input 1 4) ∧ ¬(blankSession.shownForm 1 4).AcceptsShown := by
  intro a
  obtain ⟨hload, hform⟩ := serialNumberForm_blank fun _ => .refused
  have hblank : blankSession.ProposesBlank (.input 1 4) :=
    Or.inr ⟨Or.inl rfl, " ", by decide, by decide⟩
  obtain ⟨s, p, d, hs, hproposes, -, -, -, -, haccepts⟩ := served_proposals hform
  rw [hload] at hs
  cases hs
  cases hproposes with
  | input => exact ⟨hform, hblank, fun h => haccepts.mp h hblank⟩
  | asked hpartly => simp at hpartly

/-- **Not every form that is served accepts what it proposes.** -/
theorem not_always_accepted :
    ¬∀ (settings : Settings) (gateway : Gateway) (feed : Option Feed) (kind : StoreKind)
      (turns : List Turn), Proper turns →
      ∀ (broker : Broker) (id : String) (towers modules : Option Int) (schema : SerialNumberSchema)
        (a : Assistant), serialNumberForm broker id towers modules
          ((Traffic.start settings gateway feed kind).run turns).2.assistant = .ok schema a →
        schema.AcceptsShown := by
  intro h
  obtain ⟨-, hform⟩ := serialNumberForm_blank fun _ => .refused
  have haccepts := h {} default none .memory blankTurns proper_blankTurns _ _ _ _ _ _ hform
  rw [Session.shownForm_eq, StorageSystem.acceptsShown_iff] at haccepts
  have hblank := haccepts " " (by decide)
  revert hblank
  decide

end Assistant

end Commissioning
