import Commissioning.Proofs.Assistant.Atomic
import Commissioning.Proofs.SerialNumber.Collect

/-!
# The form that is shown and the form that is checked

A form for serial numbers is made twice: when it is shown (`Commissioning.Session.shownForm`), and
when a filled-in one is checked (`Commissioning.Session.checkedForm`), both times from the same
counts. The first time the session is asked for the serial number of the inverter, and what it knows
is proposed; the second time it is not.

So the two are the same **exactly if the session does not know the inverter**
(`Commissioning.Session.shownForm_towers_eq_iff`). Otherwise they differ in what is proposed for the
inverter and in nothing else, and a form that is sent back as it was shown, with the proposed values
left out, is refused for want of just that value
(`Commissioning.Assistant.form_shown_and_checked`).
-/

namespace Commissioning

/-! ### The two forms -/

/-- A field without what is proposed for it. -/
def Field.unproposed (f : Field) : Field := { f with default := .null }

namespace StorageSystem

variable (s : StorageSystem) (t : Tower) (modules : Int) (inverter : Option String)

/-- What is known of the inverter changes what is proposed, and nothing else. -/
theorem unproposed_towerFields :
    (s.towerFields t modules inverter).map Field.unproposed =
      (s.towerFields t modules none).map Field.unproposed := by
  simp only [towerFields, List.map_append]
  congr 1
  cases t <;> rfl

/-- A box with a value proposed for it is the inverter. -/
theorem inverter_of_proposed {f : Field} (hf : f ∈ s.boxFields inverter t)
    (hproposed : f.default ≠ .null) :
    t = .first ∧ f.key = "batteryInverter" := by
  cases t with
  | first =>
    rcases List.mem_pair.mp hf with rfl | rfl
    · exact ⟨rfl, rfl⟩
    · exact absurd rfl hproposed
  | second =>
    obtain rfl := List.mem_singleton.mp hf
    exact absurd rfl hproposed
  | third =>
    obtain rfl := List.mem_singleton.mp hf
    exact absurd rfl hproposed

/-- The towers of a form, and their fields. -/
theorem mem_towers {proposed : SerialNumberDefaults} {fs : List Field} :
    (t, fs) ∈ (s.serialNumberSchema proposed).towers ↔
      t ∈ Tower.all.take (proposed.clamp s).towers.toNat ∧
        fs = s.towerFields t (proposed.clamp s).modules proposed.inverter := by
  constructor
  · intro h
    obtain ⟨t', ht, heq⟩ := List.mem_map.mp h
    cases heq
    exact ⟨ht, rfl⟩
  · rintro ⟨ht, rfl⟩
    exact List.mem_map.mpr ⟨t, ht, rfl⟩

/-- The first tower is always on the form. -/
theorem first_mem_take (proposed : SerialNumberDefaults) :
    Tower.first ∈ Tower.all.take (proposed.clamp s).towers.toNat := by
  have hmost : s.maxSerialNumberTowers = 3 := by cases s <;> rfl
  obtain ⟨n, hn⟩ : ∃ n, (clampInt 1 s.maxSerialNumberTowers proposed.towers).toNat = n + 1 := by
    refine Nat.exists_eq_add_one_of_ne_zero ?_
    rw [clampInt, hmost]
    omega
  rw [SerialNumberDefaults.clamp, hn]
  exact List.mem_cons_self

end StorageSystem

namespace Session

/-- **The form that is shown** for two counts. -/
def shownForm (s : Session) (towers modules : Int) : SerialNumberSchema :=
  s.form { towers, modules, source := .input }

/-- **The form that is checked** for two counts. -/
def checkedForm (s : Session) (towers modules : Int) : SerialNumberSchema :=
  s.system.serialNumberSchema { towers, modules, source := .input }

variable {s : Session} {towers modules : Int}

/-- What is shown is what is checked, with the inverter that the session knows. -/
theorem shownForm_eq (s : Session) (towers modules : Int) :
    s.shownForm towers modules = s.system.serialNumberSchema
      { towers, modules, inverter := s.data.inverterSerial?, source := .input } := rfl

/-- But for what is proposed, the forms are always the same. -/
theorem unproposed_shownForm (s : Session) (towers modules : Int) :
    (s.shownForm towers modules).towers.map (fun t => (t.1, t.2.map Field.unproposed)) =
      (s.checkedForm towers modules).towers.map (fun t => (t.1, t.2.map Field.unproposed)) := by
  show List.map _ (List.map _ _) = List.map _ (List.map _ _)
  rw [List.map_map, List.map_map]
  refine List.map_congr_left fun t _ => ?_
  exact congrArg (Prod.mk t) (s.system.unproposed_towerFields t _ _)

/-- **The forms are the same** exactly if the session does not know the inverter. -/
theorem shownForm_towers_eq_iff : (s.shownForm towers modules).towers =
    (s.checkedForm towers modules).towers ↔ s.data.inverterSerial? = none := by
  rw [shownForm_eq]
  constructor
  · intro h
    have hfirst := (s.system.mem_towers .first).mpr ⟨s.system.first_mem_take
      { towers, modules, inverter := s.data.inverterSerial?, source := .input }, rfl⟩
    rw [h] at hfirst
    obtain ⟨-, hfields⟩ := (s.system.mem_towers .first).mp hfirst
    have hdefault := congrArg Field.default (List.cons.inj hfields).1
    rcases hinverter : s.data.inverterSerial? with _ | serial
    · rfl
    · rw [hinverter] at hdefault
      cases hdefault
  · intro h
    rw [h]
    rfl

/-- **A field that is left out** is missing exactly if it is the inverter, for which a value was
proposed. -/
theorem missing_iff_inverter {t : Tower} {fs : List Field} {f : Field} {values : TowerValues}
    {numbers : SerialNumbers} {complaints : Complaints}
    (ht : (t, fs) ∈ (s.shownForm towers modules).towers) (hf : f ∈ fs)
    (hproposed : f.default ≠ .null)
    (hleft : Assoc.get? ((values.get? t.number).getD []) f.key = none)
    (hcollect : (s.checkedForm towers modules).collect values = .ok (numbers, complaints)) :
    (t.fieldId f.key, .missing) ∈ complaints ↔ t = .first ∧ f.key = "batteryInverter" := by
  rw [shownForm_eq] at ht
  obtain ⟨htower, rfl⟩ := (s.system.mem_towers t).mp ht
  rw [SerialNumberSchema.mem_complaints hcollect]
  constructor
  · rintro ⟨t', fs', f', ht', hf', hid, hcheck⟩
    obtain ⟨rfl, hkey⟩ := Tower.fieldId_inj.mp hid
    obtain ⟨-, rfl⟩ := (s.system.mem_towers t).mp ht'
    rw [Field.given, ← hkey, hleft, Option.getD_none] at hcheck
    -- The field that is checked is a box, and so is the one that is shown, by its key.
    rcases StorageSystem.mem_boxFields_or_accepts hf' with hbox' | ⟨haccepts, -⟩
    · rcases StorageSystem.mem_boxFields_or_accepts hf with hbox | ⟨-, hnot⟩
      · exact s.system.inverter_of_proposed t _ hbox hproposed
      · exact absurd (hkey ▸ StorageSystem.key_mem_boxKeys hbox') hnot
    · rw [haccepts] at hcheck
      cases hcheck
  · rintro ⟨rfl, hkey⟩
    refine ⟨.first, _, _, (s.system.mem_towers .first).mpr ⟨htower, rfl⟩, List.mem_cons_self,
      ?_, ?_⟩
    · rw [hkey]
    · rw [hkey] at hleft
      rw [Field.given, hleft]
      rfl

end Session

/-! ### A submission, by its form -/

namespace Session

variable {s : Session} {id : String} {fallback : SerialNumberDefaults} {counts : Members}
  {values : TowerValues} {numbers : SerialNumbers}

theorem submission_of_refused {e : AssistantError}
    (hview : s.currentView = .ok (some .protocolSerialNumbers)) (hedge : s.edge ≠ none)
    (h : Assistant.acceptForm s.system fallback counts values = .error e) :
    s.submission id fallback counts values = .error e := by
  obtain ⟨edge, hbound⟩ := Option.ne_none_iff_exists'.mp hedge
  simp only [submission, hview, ne_eq, not_true_eq_false, if_false, hbound, h]

theorem submission_of_accepted (hs : s.Sound)
    (hview : s.currentView = .ok (some .protocolSerialNumbers)) (hedge : s.edge ≠ none)
    (id : String) (h : Assistant.acceptForm s.system fallback counts values = .ok numbers) :
    ∃ protocol, s.submission id fallback counts values =
      .ok ⟨id, s.withSerialNumbers numbers, protocol⟩ := by
  obtain ⟨edge, hbound⟩ := Option.ne_none_iff_exists'.mp hedge
  obtain ⟨protocol, hprotocol⟩ :=
    Installation.exists_protocol (hs.withSerialNumbers numbers).writable edge.id
  refine ⟨protocol, ?_⟩
  simp only [submission, hview, ne_eq, not_true_eq_false, if_false, hbound, h, hprotocol]

end Session

namespace Assistant

/-- What becomes of a filled-in form: its serial numbers, unless something is said against them. -/
def judged : Except NumberError (SerialNumbers × Complaints) → Except AssistantError SerialNumbers
  | .error e => .error (.unwritable e)
  | .ok (numbers, []) => .ok numbers
  | .ok (_, complaints) => .error (.invalidFields complaints)

variable {id : String} {a : Assistant} {s : Session} {counts : Members} {towers modules : Int}

/-- Once the counts are accepted, a form is judged by what is collected from it. -/
theorem acceptForm_of_counts {system : StorageSystem} {fallback : SerialNumberDefaults}
    (hsettings : checkSettings (system.countFields fallback.towers fallback.modules) counts =
      .ok [])
    (hcounts : settingsCounts counts = .ok (towers, modules)) (values : TowerValues) :
    acceptForm system fallback counts values = judged
      ((system.serialNumberSchema { towers, modules, source := .input }).collect values) := by
  simp only [acceptForm, hsettings, hcounts, mapError_ok, ok_bind]
  rcases (system.serialNumberSchema { towers, modules, source := .input }).collect values with
    e | ⟨numbers, complaints⟩
  · rfl
  · cases complaints <;> rfl

/-- **A submission** is judged by the form that is checked. -/
theorem beginSubmission_judged (hload : load id a = .ok s a)
    (hview : s.currentView = .ok (some .protocolSerialNumbers)) (hedge : s.edge ≠ none)
    (hfree : a.isSubmitting id = false)
    (hsettings : checkSettings (s.system.countFields a.settings.fallbackDefaults.towers
      a.settings.fallbackDefaults.modules) counts = .ok [])
    (hcounts : settingsCounts counts = .ok (towers, modules)) (values : TowerValues) :
    (∀ e, judged ((s.checkedForm towers modules).collect values) = .error e →
      beginSubmission id counts values a = .error e a) ∧
    (∀ numbers, judged ((s.checkedForm towers modules).collect values) = .ok numbers →
      ∃ p a', beginSubmission id counts values a = .ok p a' ∧
        p.session = s.withSerialNumbers numbers) := by
  obtain ⟨hentries, -⟩ := load_eq_ok_iff.mp hload
  have hs : s.Sound := Session.sound_of_load hentries.2
  have hmarked : load id (a.mark id) = .ok s (a.mark id) := load_eq_ok_iff.mpr ⟨hentries, rfl⟩
  have hprepare := prepare_of_load hmarked hs counts values
  have haccept : acceptForm s.system (a.mark id).settings.fallbackDefaults counts values =
      judged ((s.checkedForm towers modules).collect values) :=
    acceptForm_of_counts hsettings hcounts values
  constructor
  · intro e hjudged
    rw [Session.submission_of_refused hview hedge (haccept.trans hjudged)] at hprepare
    have herror : prepare id counts values (a.mark id) = .error e (a.mark id) := hprepare
    rw [beginSubmission, hfree, herror, if_neg Bool.false_ne_true]
    simp only [unmark_mark hfree]
  · intro numbers hjudged
    obtain ⟨protocol, hsubmission⟩ :=
      Session.submission_of_accepted hs hview hedge id (haccept.trans hjudged)
    rw [hsubmission] at hprepare
    obtain ⟨store, hok, -⟩ := hprepare
    exact ⟨_, _, beginSubmission_of_prepare hfree hok, rfl⟩

/-- **What is shown and what is checked**, for a session at its serial numbers with a device, and
counts that are accepted. The one form is shown, the other decides about a submission. They always
ask for the same, and are the same exactly if the session does not know the inverter; and of all
fields that are shown with a value and left out, exactly the inverter is reported as missing. -/
theorem form_shown_and_checked (hload : load id a = .ok s a)
    (hview : s.currentView = .ok (some .protocolSerialNumbers)) (hedge : s.edge ≠ none)
    (hfree : a.isSubmitting id = false)
    (hsettings : checkSettings (s.system.countFields a.settings.fallbackDefaults.towers
      a.settings.fallbackDefaults.modules) counts = .ok [])
    (hcounts : settingsCounts counts = .ok (towers, modules)) :
    (∀ broker, serialNumberForm broker id (some towers) (some modules) a =
      .ok (s.shownForm towers modules) a) ∧
    (∀ values,
      (∀ e, judged ((s.checkedForm towers modules).collect values) = .error e →
        beginSubmission id counts values a = .error e a) ∧
      (∀ numbers, judged ((s.checkedForm towers modules).collect values) = .ok numbers →
        ∃ p a', beginSubmission id counts values a = .ok p a' ∧
          p.session = s.withSerialNumbers numbers)) ∧
    ((s.shownForm towers modules).towers.map (fun t => (t.1, t.2.map Field.unproposed)) =
      (s.checkedForm towers modules).towers.map (fun t => (t.1, t.2.map Field.unproposed))) ∧
    ((s.shownForm towers modules).towers = (s.checkedForm towers modules).towers ↔
      s.data.inverterSerial? = none) ∧
    ∀ t fs f values numbers complaints, (t, fs) ∈ (s.shownForm towers modules).towers → f ∈ fs →
      f.default ≠ .null → Assoc.get? ((values.get? t.number).getD []) f.key = none →
      (s.checkedForm towers modules).collect values = .ok (numbers, complaints) →
      ((t.fieldId f.key, .missing) ∈ complaints ↔ t = .first ∧ f.key = "batteryInverter") := by
  refine ⟨fun broker => ?_, beginSubmission_judged hload hview hedge hfree hsettings hcounts,
    s.unproposed_shownForm towers modules, Session.shownForm_towers_eq_iff, ?_⟩
  · rw [serialNumberForm, bind_of_ok hload]
    rfl
  · intro t fs f values numbers complaints ht hf hproposed hleft hcollect
    exact Session.missing_iff_inverter ht hf hproposed hleft hcollect

/-- A session at the serial numbers that knows its inverter. -/
def informedStore : SessionStore :=
  (((SessionStore.empty .memory).set "a" systemKey
    ("\x7b\"id\":\"FENECON_HOME\",\"data\":\x7b\"battery\":\x7b\"serial_numbers\":" ++
      "\x7b\"tower1\":[\x7b\"label\":\"Home - Wechselrichter\",\"value\":\"IN1234567890\"\x7d]" ++
      "\x7d\x7d\x7d\x7d")).set "a" viewIndexKey "12").set "a" edgeKey "\x7b\"id\":\"edge0\"\x7d"

/-- The assistant with it. -/
def informed : Assistant := { settings := {}, store := informedStore, gateway := default }

/-- The session. -/
def informedSession : Session where
  system := .home
  data := { battery := { serialNumbers := { tower1 := [⟨inverterLabel, some "IN1234567890"⟩] } } }
  viewIndex := 12
  edge := some { id := "edge0" }

/-- What was shown with a value is left out of the form. -/
def sentBack : TowerValues := [(1, [("emsBox", .str "EMS0000001")])]

/-- The form is refused for want of the inverter, with which it was shown. -/
theorem form_shown_and_checked_informed :
    serialNumberForm (fun _ => .refused) "a" (some 1) (some 4) informed =
        .ok (informedSession.shownForm 1 4) informed ∧
      (informedSession.shownForm 1 4).towers ≠ (informedSession.checkedForm 1 4).towers ∧
      beginSubmission "a" formCounts sentBack informed =
        .error (.invalidFields [("tower1.batteryInverter", .missing)]) informed := by
  have hload : Session.load (informedStore.entries "a") = .ok informedSession :=
    eq_ok_of_toOption (by decide +kernel)
  have hcollect : (informedSession.checkedForm 1 4).collect sentBack =
      .ok ({ formNumbers with tower1 := ⟨inverterLabel, none⟩ :: formNumbers.tower1.tail },
        [("tower1.batteryInverter", .missing)]) := eq_ok_of_toOption (by decide +kernel)
  have hloaded : load "a" informed = .ok informedSession informed :=
    load_eq_ok_iff.mpr ⟨⟨by decide +kernel, hload⟩, rfl⟩
  have hview : informedSession.currentView = .ok (some .protocolSerialNumbers) :=
    eq_ok_of_toOption (by decide +kernel)
  have hedge : informedSession.edge ≠ none := Option.some_ne_none _
  have hfree : informed.isSubmitting "a" = false := rfl
  have hsettings : checkSettings (informedSession.system.countFields
      informed.settings.fallbackDefaults.towers informed.settings.fallbackDefaults.modules)
        formCounts = .ok [] := eq_ok_of_toOption (by decide +kernel)
  have hcounts : settingsCounts formCounts = .ok (1, 4) := eq_ok_of_toOption (by decide +kernel)
  have hknown : informedSession.data.inverterSerial? ≠ none := by decide +kernel
  obtain ⟨hshown, hjudged, -, hsame, -⟩ :=
    form_shown_and_checked hloaded hview hedge hfree hsettings hcounts
  have hrefused : judged ((informedSession.checkedForm 1 4).collect sentBack) =
      .error (.invalidFields [("tower1.batteryInverter", .missing)]) := by
    rw [hcollect]
    rfl
  exact ⟨hshown _, fun h => hknown (hsame.mp h), (hjudged sentBack).1 _ hrefused⟩

end Assistant

end Commissioning
