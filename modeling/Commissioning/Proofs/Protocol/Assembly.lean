import Commissioning.Proofs.Installation.Document
import Commissioning.Protocol.Assembly

/-!
# A protocol for whatever can be kept

Assembling a setup protocol fails only on a whole number with too many digits. The whole
numbers of an installation that can be written are short enough, and so are the doubles that
are whole (`Commissioning.Binary64.length_natChars_whole_le`). So every installation that can
be kept has a protocol (`Commissioning.Installation.exists_protocol`).
-/

namespace Commissioning

/-- The whole part of a finite double can be written. -/
theorem Binary64.length_natChars_whole_le {u : Nat} (h : Binary64.Representable u) :
    (natChars (u / Binary64.one)).length ≤ digitLimit := by
  have hplaces : Binary64.limitPlaces =
      Binary64.unitPlaces + (Binary64.limitPlaces - Binary64.unitPlaces) := by decide
  have hlimit : Binary64.limit =
      Binary64.one * 2 ^ (Binary64.limitPlaces - Binary64.unitPlaces) := by
    rw [Binary64.limit, Binary64.one, ← Nat.pow_add, ← hplaces]
  rw [natChars, Nat.length_toDigits_le_iff (by decide) (by decide)]
  calc u / Binary64.one < 2 ^ (Binary64.limitPlaces - Binary64.unitPlaces) := by
        refine Nat.div_lt_of_lt_mul ?_
        rw [← hlimit]
        exact h.2
    _ ≤ 10 ^ (Binary64.limitPlaces - Binary64.unitPlaces) := Nat.pow_le_pow_left (by decide) _
    _ ≤ 10 ^ digitLimit := Nat.pow_le_pow_right (by decide) (by decide)

namespace Json

theorem exists_amountText_int {i : Option Int} (h : IsWritable (ofOptionInt i)) :
    ∃ s, amountText (ofOptionInt i) = .ok s := by
  rcases i with _ | i
  · exact ⟨_, rfl⟩
  · have hdisplay : (Json.int i).display? = some (String.ofList (intChars i)) := by
      simp [display?, innerChars, intChars?, isWritable_int.mp h]
    exact ⟨String.ofList (intChars i), by simp [ofOptionInt, amountText, display, hdisplay]⟩

theorem exists_amountText_float (x : Option Binary64) :
    ∃ s, amountText (ofOptionFloat x) = .ok s := by
  rcases x with _ | x
  · exact ⟨_, rfl⟩
  cases x with
  | nan => exact ⟨_, rfl⟩
  | infinite negative => exact ⟨_, rfl⟩
  | finite negative u h =>
    -- A double that is whole is written like a whole number, with all its digits.
    by_cases hwhole : u % Binary64.one = 0
    · have hlength := Binary64.length_natChars_whole_le h
      refine ⟨String.ofList (intChars (if negative then -((u / Binary64.one : Nat) : Int)
        else (u / Binary64.one : Nat))), ?_⟩
      simp only [ofOptionFloat, amountText, Number.ofBinary64, if_pos hwhole, Number.text]
      rw [intChars?, if_pos]
      cases negative
      · exact hlength
      · rw [if_pos rfl, Int.natAbs_neg]
        exact hlength
    · refine ⟨(Binary64.finite negative u h).text, ?_⟩
      simp only [ofOptionFloat, amountText, Number.ofBinary64, if_neg hwhole, Number.text]

end Json

open Json

/-! ### Items -/

theorem EmergencyReserve.exists_items {r : EmergencyReserve} (h : IsWritable r.toJson) :
    ∃ items, r.items = .ok items := by
  have hvalue : IsWritable (ofOptionInt (some r.value)) := by
    simpa [toJson, ofOptionInt] using h
  obtain ⟨s, hs⟩ := exists_amountText_int hvalue
  unfold items
  split
  · exact ⟨_, by rw [show Json.int r.value = ofOptionInt (some r.value) from rfl, hs]; rfl⟩
  · exact ⟨_, rfl⟩

theorem LineSideMeterFuse.exists_items {f : LineSideMeterFuse} (h : IsWritable f.toJson) :
    ∃ items, f.items = .ok items := by
  have hboth : IsWritable (ofOptionInt f.fixedValue) ∧ IsWritable (ofOptionInt f.otherValue) := by
    simpa [toJson] using h
  have hrating : IsWritable (ofOptionInt f.rating?) := by
    unfold rating?
    split
    · exact hboth.2
    · exact hboth.1
  obtain ⟨s, hs⟩ := exists_amountText_int hrating
  exact ⟨_, by rw [items, hs]; rfl⟩

theorem DcString.exists_items {s : DcString} (h : IsWritable s.toJson) (number : Nat) :
    ∃ items, s.items number = .ok items := by
  have hmodules : IsWritable (ofOptionInt s.modulesPerString) := by
    simp only [toJson, isWritable_obj, List.forall_mem_cons] at h
    exact h.2.2.2.2.2.1
  obtain ⟨value, hvalue⟩ := exists_amountText_float s.value
  obtain ⟨modules, hmodules⟩ := exists_amountText_int hmodules
  unfold items
  split
  · exact ⟨_, by rw [hvalue, hmodules]; rfl⟩
  · exact ⟨_, rfl⟩

theorem FeedInLimitation.exists_items {l : FeedInLimitation} (h : IsWritable l.toJson) :
    ∃ items, l.items = .ok items := by
  have hpower : IsWritable (ofOptionInt l.maximumFeedInPower) := by
    simp only [toJson, isWritable_obj, List.forall_mem_cons] at h
    exact h.2.2.1
  obtain ⟨power, hpower⟩ := exists_amountText_int hpower
  exact ⟨_, by rw [items, hpower]; rfl⟩

theorem AcProducer.exists_items {p : AcProducer} (h : IsWritable p.toJson) (number : Nat) :
    ∃ items, p.items number = .ok items := by
  have hboth : IsWritable (ofOptionInt p.modulesPerString) ∧
      IsWritable (ofOptionInt p.modbusAddress) := by
    simp only [toJson, isWritable_obj, List.forall_mem_cons] at h
    exact ⟨h.2.2.2.2.1, h.2.2.2.2.2.2.1⟩
  obtain ⟨value, hvalue⟩ := exists_amountText_float p.value
  obtain ⟨modules, hmodules⟩ := exists_amountText_int hboth.1
  obtain ⟨address, haddress⟩ := exists_amountText_int hboth.2
  exact ⟨_, by rw [items, hvalue, hmodules, haddress]; rfl⟩

theorem exists_itemsFrom {α : Type} {items : α → Nat → Except NumberError (List ProtocolItem)}
    {as : List α} (h : ∀ a ∈ as, ∀ number, ∃ these, items a number = .ok these) (number : Nat) :
    ∃ all, itemsFrom items number as = .ok all := by
  induction as generalizing number with
  | nil => exact ⟨_, rfl⟩
  | cons a as ih =>
    obtain ⟨these, hthese⟩ := h a (by simp) number
    obtain ⟨others, hothers⟩ := ih (fun b hb => h b (by simp [hb])) (number + 1)
    exact ⟨_, by rw [itemsFrom, hthese, hothers]; rfl⟩

/-! ### The protocol -/

namespace Installation

/-- **Every installation that can be kept has a protocol.** -/
theorem exists_protocol {d : Installation} (h : d.IsWritable) (edgeId : String) :
    ∃ p, d.protocol edgeId = .ok p := by
  obtain ⟨-, -, hpv, hreserve, hinverter, hfuse⟩ := isWritable_iff.mp h
  simp only [Photovoltaics.toJson, isWritable_obj, isWritable_arr, List.forall_mem_cons,
    List.forall_mem_map] at hpv
  have hlimitation : Json.IsWritable d.batteryInverter.feedInLimitation.toJson := by
    simpa [BatteryInverter.toJson] using hinverter
  obtain ⟨reserve, hreserve⟩ := EmergencyReserve.exists_items hreserve
  obtain ⟨fuse, hfuse⟩ := LineSideMeterFuse.exists_items hfuse
  obtain ⟨strings, hstrings⟩ := exists_itemsFrom
    (fun s hs number => DcString.exists_items (hpv.1 s hs) number) 1
  obtain ⟨feedIn, hfeedIn⟩ := FeedInLimitation.exists_items hlimitation
  obtain ⟨producers, hproducers⟩ := exists_itemsFrom
    (fun p hp number => AcProducer.exists_items (hpv.2.1 p hp) number) 1
  exact ⟨_, by rw [protocol, items, hreserve, hfuse, hstrings, hfeedIn, hproducers]; rfl⟩

end Installation

end Commissioning
