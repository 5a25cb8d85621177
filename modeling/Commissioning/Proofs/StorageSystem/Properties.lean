import Commissioning.Proofs.StorageSystem.NamedStrings

/-!
# What an app is told

The properties of an app are put together from several tables: those of the country, of the fuse, of
feeding in, of the meter, of the strings and of the reserve. Some tables always have the same names,
some depend on the installation, and the names of the strings are made from numbers.

`Commissioning.StorageSystem.Told` says what an app is to be told, property by property and without
the tables: which names there are, under which conditions, and with which values. **The properties
of a system are these and no others, and each name stands there once**
(`Commissioning.StorageSystem.properties_iff_told`), so that none of the tables hides a value of
another. For the names that are not always there the theorem says outright when they are.

That each name stands there once does not depend on the order of the tables, in which the systems
differ (`Commissioning.StorageSystem.nodup_keys_properties`).
-/

namespace Commissioning

namespace StorageSystem

open Installation

variable {system : StorageSystem} {d : Installation} {country : SafetyCountry}
  {setting : FeedInSetting} {key : String} {value : Json}

theorem mem_selectable_iff : system ∈ selectable ↔ system.isGeneral = false := by
  cases system <;> decide

/-- **What the app of a system is told**: the name of a property and its value. -/
inductive Told (s : StorageSystem) (d : Installation) (country : SafetyCountry)
    (setting : FeedInSetting) : String → Json → Prop
  /-- Where the system stands. -/
  | safetyCountry : Told s d country setting "SAFETY_COUNTRY" country.toJson
  /-- The rating of the fuse that is given by itself, if that is the choice. -/
  | otherFuse : s = home20 ∨ s = home30 → d.lineSideMeterFuse.fixedValue = some (-1) →
      Told s d country setting "LINE_SIDE_METER_FUSE"
        (Json.ofOptionInt d.lineSideMeterFuse.otherValue)
  /-- The rating of the fuse that is chosen. -/
  | chosenFuse : s = home20 ∨ s = home30 → d.lineSideMeterFuse.fixedValue ≠ some (-1) →
      Told s d country setting "LINE_SIDE_METER_FUSE"
        (Json.ofOptionInt d.lineSideMeterFuse.fixedValue)
  /-- How feeding in is limited. -/
  | feedInType : Told s d country setting "FEED_IN_TYPE" (.str "DYNAMIC_LIMITATION")
  /-- How feeding in is adjusted. -/
  | feedInSetting : Told s d country setting "FEED_IN_SETTING" setting.toJson
  /-- The greatest power that may be fed in. -/
  | power {watts : Int} : d.batteryInverter.feedInLimitation.maximumFeedInPower = some watts →
      Told s d country setting "MAX_FEED_IN_POWER" (.int watts)
  /-- No power may be fed in unless it is said how much. -/
  | noPower : d.batteryInverter.feedInLimitation.maximumFeedInPower = none →
      Told s d country setting "MAX_FEED_IN_POWER" (.int 0)
  /-- Whether there is a meter on the AC side. -/
  | hasMeter : Told s d country setting "HAS_AC_METER" (.bool !d.pv.ac.isEmpty)
  /-- The meter of the first producer there. -/
  | meterType {p : AcProducer} {rest : List AcProducer} : d.pv.ac = p :: rest →
      Told s d country setting "AC_METER_TYPE" (.str p.meterType.appType)
  /-- A string that is selected. -/
  | selected {number : Nat} {string : DcString} : 1 ≤ number → number ≤ s.maxMppt →
      d.pv.dc[number - 1]? = some string → string.isSelected = true →
      Told s d country setting (s.stringFlag number) (.bool true)
  /-- The name of a string that is selected. -/
  | named {number : Nat} {string : DcString} : 1 ≤ number → number ≤ s.maxMppt →
      d.pv.dc[number - 1]? = some string → string.isSelected = true →
      Told s d country setting (s.stringAlias number) (.str string.name)
  /-- A string that is missing or not selected. -/
  | unselected {number : Nat} : 1 ≤ number → number ≤ s.maxMppt →
      (∀ string, d.pv.dc[number - 1]? = some string → string.isSelected = false) →
      Told s d country setting (s.stringFlag number) (.bool false)
  /-- Whether there is a reserve. -/
  | hasReserve : Told s d country setting "HAS_EMERGENCY_RESERVE"
      (.bool d.battery.emergencyReserve.isEnabled)
  /-- Whether it is enabled. -/
  | reserveEnabled : Told s d country setting "EMERGENCY_RESERVE_ENABLED"
      (.bool d.battery.emergencyReserve.isEnabled)
  /-- How large a reserve is that is enabled. -/
  | charge : d.battery.emergencyReserve.isEnabled = true →
      Told s d country setting "EMERGENCY_RESERVE_SOC" (.int d.battery.emergencyReserve.value)
  /-- The management of shadows stays as it is. -/
  | shadowManagement : Told s d country setting "SHADOW_MANAGEMENT_DISABLED" (.bool false)

/-! ### The tables -/

theorem mem_fuseProperties :
    (key, value) ∈ system.fuseProperties d ↔
      (system = home20 ∨ system = home30) ∧ key = "LINE_SIDE_METER_FUSE" ∧
        (d.lineSideMeterFuse.fixedValue = some (-1) ∧
            value = Json.ofOptionInt d.lineSideMeterFuse.otherValue ∨
          d.lineSideMeterFuse.fixedValue ≠ some (-1) ∧
            value = Json.ofOptionInt d.lineSideMeterFuse.fixedValue) := by
  have hmem : (key, value) ∈ system.fuseProperties d ↔
      (system = home20 ∨ system = home30) ∧ key = "LINE_SIDE_METER_FUSE" ∧
        value = Json.ofOptionInt d.lineSideMeterFuse.rating? := by
    cases system <;> simp [fuseProperties]
  rw [hmem, LineSideMeterFuse.rating?, otherRating]
  by_cases hother : d.lineSideMeterFuse.fixedValue = some (-1) <;> simp [hother]

theorem mem_feedInProperties :
    (key, value) ∈ d.feedInProperties setting ↔
      key = "FEED_IN_TYPE" ∧ value = .str "DYNAMIC_LIMITATION" ∨
        key = "FEED_IN_SETTING" ∧ value = setting.toJson ∨
        key = "MAX_FEED_IN_POWER" ∧
          value = .int (d.batteryInverter.feedInLimitation.maximumFeedInPower.getD 0) := by
  simp only [feedInProperties, List.mem_cons, List.not_mem_nil, or_false, Prod.mk.injEq]

theorem mem_meterProperties :
    (key, value) ∈ d.meterProperties ↔
      key = "HAS_AC_METER" ∧ value = .bool !d.pv.ac.isEmpty ∨
        ∃ p rest, d.pv.ac = p :: rest ∧ key = "AC_METER_TYPE" ∧
          value = .str p.meterType.appType := by
  unfold meterProperties
  cases d.pv.ac <;> simp

theorem mem_reserveProperties :
    (key, value) ∈ d.reserveProperties ↔
      key = "HAS_EMERGENCY_RESERVE" ∧ value = .bool d.battery.emergencyReserve.isEnabled ∨
        key = "EMERGENCY_RESERVE_ENABLED" ∧ value = .bool d.battery.emergencyReserve.isEnabled ∨
        d.battery.emergencyReserve.isEnabled = true ∧ key = "EMERGENCY_RESERVE_SOC" ∧
          value = .int d.battery.emergencyReserve.value := by
  simp only [reserveProperties]
  cases d.battery.emergencyReserve.isEnabled <;> simp

/-- A string that is selected has its flag and its name, any other its flag alone. -/
theorem mem_stringTable :
    (key, value) ∈ system.stringTable d ↔
      ∃ number, 1 ≤ number ∧ number ≤ system.maxMppt ∧
        ((∃ string, d.pv.dc[number - 1]? = some string ∧ string.isSelected = true ∧
            (key = system.stringFlag number ∧ value = .bool true ∨
              key = system.stringAlias number ∧ value = .str string.name)) ∨
          (∀ string, d.pv.dc[number - 1]? = some string → string.isSelected = false) ∧
            key = system.stringFlag number ∧ value = .bool false) := by
  rw [stringTable, allStringProperties, List.mem_flatMap]
  refine exists_congr fun number => ?_
  rw [List.mem_range'_1, ← and_assoc]
  refine and_congr (by omega) ?_
  unfold stringProperties
  cases hstring : d.selectedString? number with
  | some string =>
    obtain ⟨hplace, hselected⟩ := Option.filter_eq_some_iff.mp hstring
    simp [hplace, hselected]
  | none =>
    have hnone := Option.filter_eq_none_iff.mp hstring
    simp only [Bool.not_eq_true] at hnone
    simp only [List.mem_singleton, Prod.mk.injEq]
    constructor
    · intro hp
      exact Or.inr ⟨hnone, hp⟩
    · rintro (⟨string, hplace, hselected, -⟩ | ⟨-, hp⟩)
      · rw [hnone string hplace] at hselected
        cases hselected
      · exact hp

/-- **The tables hold what is to be told.** -/
theorem mem_properties_iff_told (hsystem : system.isGeneral = false) :
    (key, value) ∈ (system.payload d country setting).properties ↔
      system.Told d country setting key value := by
  rw [(properties_perm hsystem).mem_iff, fixedProperties]
  simp only [List.mem_append, List.mem_cons, List.not_mem_nil, or_false, or_assoc, Prod.mk.injEq,
    mem_fuseProperties, mem_feedInProperties, mem_meterProperties, mem_reserveProperties]
  constructor
  · rw [mem_stringTable]
    rintro (⟨rfl, rfl⟩ | ⟨hfuse, rfl, ⟨hother, rfl⟩ | ⟨hchosen, rfl⟩⟩ | ⟨rfl, rfl⟩ | ⟨rfl, rfl⟩ |
      ⟨rfl, rfl⟩ | ⟨rfl, rfl⟩ | ⟨p, rest, hac, rfl, rfl⟩ | ⟨rfl, rfl⟩ | ⟨rfl, rfl⟩ |
      ⟨henabled, rfl, rfl⟩ | ⟨rfl, rfl⟩ | ⟨number, hleast, hmost, hstring⟩)
    · exact .safetyCountry
    · exact .otherFuse hfuse hother
    · exact .chosenFuse hfuse hchosen
    · exact .feedInType
    · exact .feedInSetting
    · cases hpower : d.batteryInverter.feedInLimitation.maximumFeedInPower with
      | some watts => exact .power hpower
      | none => exact .noPower hpower
    · exact .hasMeter
    · exact .meterType hac
    · exact .hasReserve
    · exact .reserveEnabled
    · exact .charge henabled
    · exact .shadowManagement
    · rcases hstring with ⟨string, hplace, hselected, ⟨rfl, rfl⟩ | ⟨rfl, rfl⟩⟩ | ⟨hnone, rfl, rfl⟩
      · exact .selected hleast hmost hplace hselected
      · exact .named hleast hmost hplace hselected
      · exact .unselected hleast hmost hnone
  · rintro (_ | ⟨hfuse, hother⟩ | ⟨hfuse, hchosen⟩ | _ | _ | hpower | hpower | _ | hac |
      ⟨hleast, hmost, hplace, hselected⟩ | ⟨hleast, hmost, hplace, hselected⟩ |
      ⟨hleast, hmost, hnone⟩ | _ | _ | henabled | _)
    · simp
    · simp [hfuse, hother]
    · simp [hfuse, hchosen]
    · simp
    · simp
    · simp [hpower]
    · simp [hpower]
    · simp
    · simp [hac]
    · simp [mem_stringTable.mpr
        ⟨_, hleast, hmost, Or.inl ⟨_, hplace, hselected, Or.inl ⟨rfl, rfl⟩⟩⟩]
    · simp [mem_stringTable.mpr
        ⟨_, hleast, hmost, Or.inl ⟨_, hplace, hselected, Or.inr ⟨rfl, rfl⟩⟩⟩]
    · simp [mem_stringTable.mpr ⟨_, hleast, hmost, Or.inr ⟨hnone, rfl, rfl⟩⟩]
    · simp
    · simp
    · simp [henabled]
    · simp

/-! ### All properties -/

/-- A fixed name is there if one of the tables without strings has it. -/
theorem mem_keys_properties_of_fixed (hsystem : system.isGeneral = false)
    (hkey : key ∈ fixedNames) :
    key ∈ (system.payload d country setting).properties.keys ↔
      key = "SAFETY_COUNTRY" ∨ key ∈ (system.fuseProperties d).keys ∨
        key ∈ (d.feedInProperties setting).keys ∨ key ∈ d.meterProperties.keys ∨
        key ∈ d.reserveProperties.keys ∨ key = "SHADOW_MANAGEMENT_DISABLED" := by
  have hstring : key ∉ (system.stringTable d).keys :=
    fun h => not_mem_fixedNames_of_string h hkey
  rw [Assoc.keys, ((properties_perm hsystem).map Prod.fst).mem_iff, ← Assoc.keys, fixedProperties]
  simp only [Assoc.keys_append, List.mem_append, hstring, or_false, or_assoc]
  simp only [Assoc.keys, List.map_cons, List.map_nil, List.mem_cons, List.not_mem_nil, or_false,
    or_assoc]

/-- **What an app is told.** The properties of a system that can be chosen are those that are to be
told, and each name stands there once. So there is a flag for each input of the system, a name for
each input with a string that is selected, a fuse for the two larger systems, a type of meter if
there is a producer on the AC side, and a size of the reserve if it is enabled; and no others of
these. -/
theorem properties_iff_told (hsystem : system ∈ selectable) (d : Installation)
    (country : SafetyCountry) (setting : FeedInSetting) :
    let properties := (system.payload d country setting).properties
    properties.keys.Nodup ∧
      (∀ key value, (key, value) ∈ properties ↔ system.Told d country setting key value) ∧
      (∀ number, system.stringFlag number ∈ properties.keys ↔
        1 ≤ number ∧ number ≤ system.maxMppt) ∧
      (∀ number, system.stringAlias number ∈ properties.keys ↔
        (1 ≤ number ∧ number ≤ system.maxMppt) ∧
          ∃ string, d.pv.dc[number - 1]? = some string ∧ string.isSelected = true) ∧
      ("LINE_SIDE_METER_FUSE" ∈ properties.keys ↔ system = home20 ∨ system = home30) ∧
      ("AC_METER_TYPE" ∈ properties.keys ↔ d.pv.ac ≠ []) ∧
      ("EMERGENCY_RESERVE_SOC" ∈ properties.keys ↔
        d.battery.emergencyReserve.isEnabled = true) := by
  intro properties
  have hchosen := mem_selectable_iff.mp hsystem
  refine ⟨nodup_keys_properties hchosen, fun key value => mem_properties_iff_told hchosen,
    fun number => ?_, fun number => ?_, ?_, ?_, ?_⟩
  · rw [Assoc.mem_keys_iff, get?_stringFlag hchosen]
    split <;> simp [*]
  · rw [Assoc.mem_keys_iff, get?_stringAlias hchosen]
    split
    · next hinput =>
      simp only [hinput, and_self, true_and, Option.isSome_map, Option.isSome_iff_exists,
        selectedString?, Option.filter_eq_some_iff]
    · next hinput => simp [hinput]
  -- The names that are left belong to tables with a few cases each.
  all_goals
    rw [mem_keys_properties_of_fixed hchosen (by decide)]
    simp only [feedInProperties, meterProperties, reserveProperties]
    cases system <;> cases d.pv.ac <;> cases d.battery.emergencyReserve.isEnabled <;>
      simp [fuseProperties, Assoc.keys]

/-- The larger system has three inputs, the last two of which have strings that are selected. -/
theorem properties_iff_told_larger :
    let properties := (home30.payload threeStrings .austria .undefined).properties
    home30 ∈ selectable ∧ properties.keys.Nodup ∧
      ("HAS_MPPT_1", .bool false) ∈ properties ∧ ("ALIAS_MPPT_2", .str "Dach") ∈ properties ∧
      home30.stringFlag 3 ∈ properties.keys ∧ home30.stringFlag 4 ∉ properties.keys ∧
      "LINE_SIDE_METER_FUSE" ∈ properties.keys ∧ "AC_METER_TYPE" ∉ properties.keys := by
  intro properties
  have hsystem : home30 ∈ selectable := by decide
  obtain ⟨hnodup, htold, hflag, -, hfuse, hmeter, -⟩ :=
    properties_iff_told hsystem threeStrings .austria .undefined
  refine ⟨hsystem, hnodup, (htold _ _).mpr ?_, (htold _ _).mpr ?_, (hflag 3).mpr (by decide), ?_,
    hfuse.mpr (Or.inr rfl), ?_⟩
  · refine .unselected (Nat.le_refl 1) (by decide) ?_
    intro string hstring
    obtain rfl := Option.some.inj hstring
    rfl
  · have hplace : threeStrings.pv.dc[2 - 1]? = some { isSelected := true, name := "Dach" } := rfl
    exact .named (by decide) (by decide) hplace rfl
  · intro hmem
    exact absurd ((hflag 4).mp hmem).2 (by decide)
  · intro hmem
    exact hmeter.mp hmem rfl

end StorageSystem

end Commissioning
