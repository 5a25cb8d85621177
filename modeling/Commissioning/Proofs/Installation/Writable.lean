import Commissioning.Proofs.Installation.Document
import Commissioning.Proofs.Installation.RoundTrip
import Commissioning.Proofs.Json.Reading

/-!
# Installations that can be written

The readers of an installation turn numerals, truth values and doubles into whole numbers, so a
whole number of an installation need not stand in the document that it was read from. It has no
more digits than can be written all the same: a numeral with too many is refused, and a double
counts as a whole number only if it fits in 64 bits (`Commissioning.Intake.isWritable_of_integer`).

A reader **keeps** a property (`Commissioning.Intake.Keeps`) if what it makes of a document that
can be written has it. Readers of members, optional values, lists and records keep what they are
put together from, and so an installation that was read from a document that can be written can
be written itself (`Commissioning.Installation.isWritable_of_ofMembers`).
-/

namespace Commissioning

open Json

@[simp] theorem Json.isWritable_ofOptionFloat (x : Option Binary64) :
    IsWritable (ofOptionFloat x) := by
  cases x <;> rfl

theorem Json.isWritable_ofOptionInt {i : Option Int} :
    IsWritable (ofOptionInt i) ↔ ∀ n ∈ i, IsWritable (.int n) := by
  cases i <;> simp [ofOptionInt]

namespace Intake

/-! ### Whole numbers -/

/-- A whole number of 64 bits has few digits. -/
theorem isWritable_of_natAbs_lt {i : Int} (h : i.natAbs < 2 ^ 64) : IsWritable (.int i) := by
  have hlength : (natChars i.natAbs).length ≤ 20 := by
    rw [natChars, Nat.length_toDigits_le_iff (by decide) (by decide)]
    exact Nat.lt_trans h (by decide)
  exact isWritable_int.mpr (Nat.le_trans hlength (by decide))

theorem isWritable_of_wordOfFloat? {x : Binary64} {i : Int} (h : wordOfFloat? x = some i) :
    IsWritable (.int i) := by
  unfold wordOfFloat? at h
  split at h
  · split at h
    · next hbounds =>
      obtain rfl := Option.some.inj h
      rw [Bool.and_eq_true, decide_eq_true_eq, decide_eq_true_eq] at hbounds
      exact isWritable_of_natAbs_lt (by omega)
    · cases h
  · cases h

theorem isWritable_of_wholeOfPlain? {cs : List Char} {i : Int} (h : wholeOfPlain? cs = some i) :
    IsWritable (.int i) := by
  unfold wholeOfPlain? at h
  dsimp only at h
  split at h
  · cases h
  · next hplain =>
    obtain rfl := Option.some.inj h
    simp only [Bool.or_eq_true, not_or, Bool.not_eq_true, Bool.not_eq_false',
      List.isEmpty_eq_false_iff, decide_eq_false_iff_not, Nat.not_lt] at hplain
    obtain ⟨⟨⟨hne, hdigits⟩, -⟩, hlength⟩ := hplain
    refine isWritable_int.mpr ?_
    rw [natAbs_signed]
    exact Nat.le_trans (length_natChars_natOfDigits_le hne (List.all_eq_true.mp hdigits)) hlength

/-- **What counts as a whole number** can be written if the document can. -/
theorem isWritable_of_integer {j : Json} {i : Int} (hj : IsWritable j)
    (h : integer j = .valid i) : IsWritable (.int i) := by
  unfold integer at h
  split at h
  · next b =>
    obtain rfl := Checked.valid.inj h
    cases b <;> exact isWritable_of_natAbs_lt (by decide)
  · obtain rfl := Checked.valid.inj h
    exact hj
  · unfold integerOfFloat at h
    split at h
    · cases h
    · split at h
      · next hword =>
        obtain rfl := Checked.valid.inj h
        exact isWritable_of_wordOfFloat? hword
      · cases h
      · cases h
  · unfold integerOfText at h
    split at h
    · cases h
    · split at h
      · next hwhole =>
        obtain rfl := Checked.valid.inj h
        simp only [wholeOfNumeral?, Option.bind_eq_bind, Option.bind_eq_some_iff] at hwhole
        obtain ⟨_, -, _, -, hplain⟩ := hwhole
        exact isWritable_of_wholeOfPlain? hplain
      · cases h
  · cases h
  · cases h

/-! ### Readers -/

/-- What the reader makes of a document that can be written has the property. -/
def Keeps {α : Type} (read : Intake α) (good : α → Prop) : Prop :=
  ∀ j a, IsWritable j → read j = .valid a → good a

section Keeps

variable {α : Type} {read : Intake α} {good : α → Prop}

/-- **A member** has the property if what is put in its place has it, too. -/
theorem Keeps.member (h : Keeps read good) {name : String} {default a : α} (hdefault : good default)
    {ms : Members} (hms : ∀ m ∈ ms, IsWritable m.2)
    (ha : Intake.member name read default ms = .valid a) : good a := by
  unfold Intake.member at ha
  split at ha
  · next j hj => exact h j a (hms _ (Assoc.mem_of_last? hj)) (Checked.under_eq_valid ha)
  · obtain rfl := Checked.valid.inj ha
    exact hdefault

theorem Keeps.optional (h : Keeps read good) :
    Keeps (Intake.optional read) fun o => ∀ a ∈ o, good a := by
  intro j o hj ho a ha
  obtain rfl := Option.mem_def.mp ha
  unfold Intake.optional at ho
  split at ho
  · cases ho
  · obtain ⟨b, hb, hab⟩ := Checked.map_eq_valid ho
    obtain rfl := Option.some.inj hab
    exact h j b hj hb

theorem Keeps.itemsFrom (h : Keeps read good) {n : Nat} {items : List Json} {as : List α}
    (hitems : ∀ j ∈ items, IsWritable j) (has : Intake.itemsFrom read n items = .valid as) :
    ∀ a ∈ as, good a := by
  induction items generalizing n as with
  | nil =>
    obtain rfl := Checked.valid.inj has
    simp
  | cons j js ih =>
    obtain ⟨_, rest, hcons, hrest, rfl⟩ := Checked.seq_eq_valid has
    obtain ⟨first, hfirst, rfl⟩ := Checked.map_eq_valid hcons
    have hgood := h j first (hitems j (by simp)) (Checked.under_eq_valid hfirst)
    have hgoods := ih (fun k hk => hitems k (by simp [hk])) hrest
    simpa using ⟨hgood, hgoods⟩

theorem Keeps.list (h : Keeps read good) : Keeps (Intake.list read) fun as => ∀ a ∈ as, good a := by
  intro j as hj has
  cases j with
  | arr items => exact Keeps.itemsFrom h (isWritable_arr.mp hj) has
  | _ => cases has

/-- **A record** has the property if it has it whenever all members can be written. -/
theorem Keeps.record {name : String} {readMembers : Members → Checked α}
    (h : ∀ ms a, (∀ m ∈ ms, IsWritable m.2) → readMembers ms = .valid a → good a) :
    Keeps (Intake.record name readMembers) good := by
  intro j a hj ha
  cases j with
  | obj ms => exact h ms a (isWritable_obj.mp hj) ha
  | _ => cases ha

theorem keeps_integer : Keeps integer fun i => IsWritable (.int i) :=
  fun _ _ => isWritable_of_integer

end Keeps

end Intake

/-! ### Records -/

theorem DcString.keeps_intake (channel : Channel) :
    Intake.Keeps (intake channel) fun s => IsWritable s.toJson := by
  refine Intake.Keeps.record fun ms s hms hs => ?_
  obtain ⟨_, modules, h5, hmodules, rfl⟩ := Checked.seq_eq_valid hs
  obtain ⟨_, _, h4, -, rfl⟩ := Checked.seq_eq_valid h5
  obtain ⟨_, _, h3, -, rfl⟩ := Checked.seq_eq_valid h4
  obtain ⟨_, _, h2, -, rfl⟩ := Checked.seq_eq_valid h3
  obtain ⟨_, _, h1, -, rfl⟩ := Checked.seq_eq_valid h2
  obtain ⟨_, -, rfl⟩ := Checked.map_eq_valid h1
  have hmodules := Intake.keeps_integer.optional.member (by simp) hms hmodules
  simpa [toJson, isWritable_ofOptionInt] using hmodules

theorem AcProducer.keeps_intake (channel : Channel) :
    Intake.Keeps (intake channel) fun p => IsWritable p.toJson := by
  refine Intake.Keeps.record fun ms p hms hp => ?_
  obtain ⟨_, address, h6, haddress, rfl⟩ := Checked.seq_eq_valid hp
  obtain ⟨_, _, h5, -, rfl⟩ := Checked.seq_eq_valid h6
  obtain ⟨_, modules, h4, hmodules, rfl⟩ := Checked.seq_eq_valid h5
  obtain ⟨_, _, h3, -, rfl⟩ := Checked.seq_eq_valid h4
  obtain ⟨_, _, h2, -, rfl⟩ := Checked.seq_eq_valid h3
  obtain ⟨_, _, h1, -, rfl⟩ := Checked.seq_eq_valid h2
  obtain ⟨_, -, rfl⟩ := Checked.map_eq_valid h1
  have hmodules := Intake.keeps_integer.optional.member (by simp) hms hmodules
  have haddress := Intake.keeps_integer.optional.member (by simp) hms haddress
  simpa [toJson, Meter.toJson, isWritable_ofOptionInt] using And.intro hmodules haddress

theorem Photovoltaics.keeps_intake (channel : Channel) :
    Intake.Keeps (intake channel) fun p => IsWritable p.toJson := by
  refine Intake.Keeps.record fun ms p hms hp => ?_
  obtain ⟨_, ac, h1, hac, rfl⟩ := Checked.seq_eq_valid hp
  obtain ⟨dc, hdc, rfl⟩ := Checked.map_eq_valid h1
  have hstring : IsWritable (DcString.toJson {}) := rfl
  have hdc := (DcString.keeps_intake channel).list.member (by simp [hstring]) hms hdc
  have hac := (AcProducer.keeps_intake channel).list.member (by simp) hms hac
  simpa [toJson] using And.intro hdc hac

/-- A percentage can be written whatever the document is. -/
theorem EmergencyReserve.isWritable_toJson {r : EmergencyReserve} (h : r.InBounds) :
    IsWritable r.toJson := by
  obtain ⟨hleast, hmost⟩ := h
  have hvalue : IsWritable (.int r.value) := Intake.isWritable_of_natAbs_lt (by omega)
  simpa [toJson] using hvalue

theorem FeedInLimitation.keeps_intake : Intake.Keeps intake fun l => IsWritable l.toJson := by
  refine Intake.Keeps.record fun ms l hms hl => ?_
  obtain ⟨_, power, h2, hpower, rfl⟩ := Checked.seq_eq_valid hl
  have hpower := Intake.keeps_integer.optional.member (by simp) hms hpower
  obtain ⟨_, _, h1, -, rfl⟩ := Checked.seq_eq_valid h2
  obtain ⟨_, -, rfl⟩ := Checked.map_eq_valid h1
  simpa [toJson, FeedInSetting.toJson, isWritable_ofOptionInt] using hpower

theorem BatteryInverter.keeps_intake : Intake.Keeps intake fun b => IsWritable b.toJson := by
  refine Intake.Keeps.record fun ms b hms hb => ?_
  obtain ⟨limitation, hlimitation, rfl⟩ := Checked.map_eq_valid hb
  have hdefault : IsWritable (FeedInLimitation.toJson {}) := rfl
  have hlimitation := FeedInLimitation.keeps_intake.member hdefault hms hlimitation
  simpa [toJson] using hlimitation

theorem LineSideMeterFuse.keeps_intake : Intake.Keeps intake fun f => IsWritable f.toJson := by
  refine Intake.Keeps.record fun ms f hms hf => ?_
  obtain ⟨_, other, h1, hother, rfl⟩ := Checked.seq_eq_valid hf
  obtain ⟨chosen, hchosen, rfl⟩ := Checked.map_eq_valid h1
  have hchosen := Intake.keeps_integer.optional.member (by simp) hms hchosen
  have hother := Intake.keeps_integer.optional.member (by simp) hms hother
  simpa [toJson, isWritable_ofOptionInt] using And.intro hchosen hother

/-! ### The installation -/

namespace Installation

theorem isWritable_default : IsWritable {} := by
  rw [isWritable_iff]
  exact ⟨rfl, rfl, rfl, rfl, rfl, rfl⟩

/-- **What was read from a document that can be written** can be written itself. -/
theorem isWritable_of_ofMembers {channel : Channel} {ms : Members} {d : Installation}
    (hms : ∀ m ∈ ms, Json.IsWritable m.2) (h : ofMembers channel ms = .valid d) :
    d.IsWritable := by
  have hbounds : d.battery.emergencyReserve.InBounds := inBounds_of_ofMembers h
  obtain ⟨_, _, h6, -, rfl⟩ := Checked.seq_eq_valid h
  obtain ⟨_, fuse, h5, hfuse, rfl⟩ := Checked.seq_eq_valid h6
  obtain ⟨_, inverter, h4, hinverter, rfl⟩ := Checked.seq_eq_valid h5
  obtain ⟨_, battery, h3, -, rfl⟩ := Checked.seq_eq_valid h4
  obtain ⟨_, pv, h2, hpv, rfl⟩ := Checked.seq_eq_valid h3
  obtain ⟨_, _, h1, -, rfl⟩ := Checked.seq_eq_valid h2
  obtain ⟨_, -, rfl⟩ := Checked.map_eq_valid h1
  obtain ⟨_, _, hpv', -, hinverter', hfuse'⟩ := isWritable_iff.mp isWritable_default
  rw [isWritable_iff]
  refine ⟨by simp [Customer.toJson, Contact.members], by simp [Location.toJson, Contact.members],
    ?_, EmergencyReserve.isWritable_toJson hbounds, ?_, ?_⟩
  · exact (Photovoltaics.keeps_intake channel).member hpv' hms hpv
  · exact BatteryInverter.keeps_intake.member hinverter' hms hinverter
  · exact LineSideMeterFuse.keeps_intake.member hfuse' hms hfuse

end Installation

end Commissioning
