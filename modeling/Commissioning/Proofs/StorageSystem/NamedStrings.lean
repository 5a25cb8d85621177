import Commissioning.Proofs.Assoc
import Commissioning.Proofs.Protocol.Filled
import Commissioning.StorageSystem.Payload

/-!
# The strings that are named

Both the settings of the app and the setup protocol are made from the list of strings, each in a way
of its own. The settings go through the inputs of the system, as many as there are, and have a flag
for each of them; a string that is missing from the list counts as not selected. The protocol goes
through the list, as long as it is, and has five items for each string that is selected.

**They name the same strings** (`Commissioning.StorageSystem.strings_named_alike`): at every input
of the system the flag is set exactly if the protocol has the five items, and then the name in the
settings is the one in the protocol. This rests on three facts about names: those of different
strings are different (`Commissioning.StorageSystem.disjoint_stringNames`), none of them is the name
of another property (`Commissioning.StorageSystem.not_mem_fixedNames`), and the items of a string
are told apart from those of any other
(`Commissioning.StringContent.eq_of_alias`). The first two say that each name stands in the
settings once (`Commissioning.StorageSystem.nodup_keys_properties`), so that a string can be looked
up there wherever the system puts its strings.

Behind the inputs the two part company. The settings know nothing of a string there, which the
protocol names all the same (`Commissioning.StorageSystem.not_strings_named_alike`).
-/

namespace Commissioning

/-! ### Names -/

/-- Texts that begin in ways of which neither continues the other are different. -/
theorem append_ne_append (start start' : String)
    (h : ¬start.toList <+: start'.toList ∧ ¬start'.toList <+: start.toList) (rest rest' : String) :
    start ++ rest ≠ start' ++ rest' := by
  intro heq
  have hchars : start'.toList <+: start.toList ++ rest.toList := by
    rw [← String.toList_append, heq, String.toList_append]
    exact List.prefix_append _ _
  rcases List.prefix_or_prefix_of_prefix hchars (List.prefix_append _ _) with hstart | hstart
  · exact h.2 hstart
  · exact h.1 hstart

namespace StorageSystem

theorem stringFlag_injective (s : StorageSystem) : Function.Injective s.stringFlag := by
  intro i j h
  cases s with
  | home => exact toString_injective ((String.append_right_inj "HAS_DC_PV").mp h)
  | _ => exact toString_injective ((String.append_right_inj "HAS_MPPT_").mp h)

theorem stringAlias_injective (s : StorageSystem) : Function.Injective s.stringAlias := by
  intro i j h
  cases s with
  | home =>
    have hfront : "DC_PV" ++ toString i = "DC_PV" ++ toString j :=
      (String.append_left_inj "_ALIAS").mp h
    exact toString_injective ((String.append_right_inj "DC_PV").mp hfront)
  | _ => exact toString_injective ((String.append_right_inj "ALIAS_MPPT_").mp h)

theorem stringFlag_ne_stringAlias (s : StorageSystem) (i j : Nat) :
    s.stringFlag i ≠ s.stringAlias j := by
  cases s with
  | home =>
    intro h
    refine append_ne_append "HAS_DC_PV" "DC_PV" (by decide) _
      (toString j ++ "_ALIAS") (h.trans ?_)
    exact String.append_assoc
  | _ => exact append_ne_append "HAS_MPPT_" "ALIAS_MPPT_" (by decide) _ _

/-- The names that a string can have in the properties. -/
def stringNames (s : StorageSystem) (number : Nat) : List String :=
  [s.stringFlag number, s.stringAlias number]

theorem nodup_stringNames (s : StorageSystem) (number : Nat) : (s.stringNames number).Nodup := by
  simp [stringNames, s.stringFlag_ne_stringAlias number number]

/-- **Different strings have different names.** -/
theorem disjoint_stringNames (s : StorageSystem) {i j : Nat} (hij : i ≠ j) :
    (s.stringNames i).Disjoint (s.stringNames j) := by
  intro name hi hj
  rcases List.mem_pair.mp hi with rfl | rfl <;> rcases List.mem_pair.mp hj with hj | hj
  · exact hij (s.stringFlag_injective hj)
  · exact s.stringFlag_ne_stringAlias i j hj
  · exact s.stringFlag_ne_stringAlias j i hj.symm
  · exact hij (s.stringAlias_injective hj)

/-- The names of the properties that have nothing to do with a string. -/
def fixedNames : List String :=
  ["SAFETY_COUNTRY", "LINE_SIDE_METER_FUSE", "FEED_IN_TYPE", "FEED_IN_SETTING",
    "MAX_FEED_IN_POWER", "HAS_AC_METER", "AC_METER_TYPE", "HAS_EMERGENCY_RESERVE",
    "EMERGENCY_RESERVE_ENABLED", "EMERGENCY_RESERVE_SOC", "SHADOW_MANAGEMENT_DISABLED"]

theorem append_not_mem_fixedNames (start : String)
    (h : ∀ name ∈ fixedNames, ¬start.toList <+: name.toList) (rest : String) :
    start ++ rest ∉ fixedNames := by
  intro hmem
  refine h _ hmem ?_
  rw [String.toList_append]
  exact List.prefix_append _ _

/-- **No string is named like another property.** -/
theorem not_mem_fixedNames (s : StorageSystem) {number : Nat} {name : String}
    (h : name ∈ s.stringNames number) : name ∉ fixedNames := by
  cases s with
  | home =>
    rcases List.mem_pair.mp h with rfl | rfl
    · exact append_not_mem_fixedNames "HAS_DC_PV" (by decide) _
    · have halias : home.stringAlias number = "DC_PV" ++ (toString number ++ "_ALIAS") :=
        String.append_assoc
      rw [halias]
      exact append_not_mem_fixedNames "DC_PV" (by decide) _
  | _ =>
    rcases List.mem_pair.mp h with rfl | rfl
    · exact append_not_mem_fixedNames "HAS_MPPT_" (by decide) _
    · exact append_not_mem_fixedNames "ALIAS_MPPT_" (by decide) _

end StorageSystem

/-! ### The settings -/

namespace StorageSystem

open Installation

variable {system : StorageSystem} {d : Installation} {country : SafetyCountry}
  {setting : FeedInSetting}

/-- **The properties are those of two tables**, in one order or another. -/
theorem properties_perm (hsystem : system.isGeneral = false) :
    (system.payload d country setting).properties.Perm
      (system.fixedProperties d country setting ++ system.stringTable d) := by
  cases system with
  | general => cases hsystem
  | home =>
    show (home.properties d country setting).Perm _
    simp only [properties, fixedProperties, fuseProperties, List.append_assoc, List.nil_append,
      List.cons_append]
    -- The strings change places with what stands behind them.
    refine (List.Perm.append_left _ (List.Perm.append_left _ ?_)).cons _
    refine List.perm_append_comm.trans ?_
    rw [List.append_assoc]
    exact List.Perm.refl _
  | _ => exact List.Perm.refl _

/-! ### Each name once -/

/-- The properties without strings have their names in the order of the fixed names. -/
theorem keys_fixedProperties (s : StorageSystem) (d : Installation) (country : SafetyCountry)
    (setting : FeedInSetting) :
    (s.fixedProperties d country setting).keys.Sublist fixedNames := by
  have hfuse : (s.fuseProperties d).keys.Sublist ["LINE_SIDE_METER_FUSE"] := by
    cases s <;> simp [fuseProperties, Assoc.keys]
  have hmeter : d.meterProperties.keys.Sublist ["HAS_AC_METER", "AC_METER_TYPE"] := by
    unfold meterProperties
    split <;> simp [Assoc.keys]
  have hreserve : d.reserveProperties.keys.Sublist
      ["HAS_EMERGENCY_RESERVE", "EMERGENCY_RESERVE_ENABLED", "EMERGENCY_RESERVE_SOC"] := by
    simp only [reserveProperties]
    split <;> simp [Assoc.keys]
  simp only [fixedProperties, Assoc.keys_append]
  exact ((((hfuse.cons_cons _).append (List.Sublist.refl _)).append hmeter).append hreserve).append
    (List.Sublist.refl _)

theorem keys_stringProperties (s : StorageSystem) (d : Installation) (number : Nat) :
    (d.stringProperties s.stringFlag s.stringAlias number).keys.Sublist
      (s.stringNames number) := by
  unfold stringProperties
  split <;> simp [Assoc.keys, stringNames]

/-- No two names of strings are the same. -/
theorem nodup_keys_stringTable (s : StorageSystem) (d : Installation) :
    (s.stringTable d).keys.Nodup := by
  have hkeys : (s.stringTable d).keys =
      (List.range' 1 s.maxMppt).flatMap fun number =>
        (d.stringProperties s.stringFlag s.stringAlias number).keys := List.map_flatMap
  rw [hkeys, List.nodup_flatMap]
  constructor
  · intro number _
    exact (keys_stringProperties s d number).nodup (s.nodup_stringNames number)
  · refine List.Pairwise.imp ?_ List.nodup_range'
    intro i j hij name hi hj
    exact s.disjoint_stringNames hij ((keys_stringProperties s d i).subset hi)
      ((keys_stringProperties s d j).subset hj)

/-- None of them is a fixed name. -/
theorem not_mem_fixedNames_of_string {name : String} (h : name ∈ (system.stringTable d).keys) :
    name ∉ fixedNames := by
  obtain ⟨p, hp, rfl⟩ := List.mem_map.mp h
  obtain ⟨number, -, hp⟩ := List.mem_flatMap.mp hp
  exact system.not_mem_fixedNames
    ((keys_stringProperties system d number).subset (List.mem_map.mpr ⟨p, hp, rfl⟩))

/-- **Each name stands in the properties once.** -/
theorem nodup_keys_properties (hsystem : system.isGeneral = false) :
    (system.payload d country setting).properties.keys.Nodup := by
  have hfixed := keys_fixedProperties system d country setting
  have hperm : (system.payload d country setting).properties.keys.Perm
      ((system.fixedProperties d country setting).keys ++ (system.stringTable d).keys) := by
    rw [← Assoc.keys_append]
    exact (properties_perm hsystem).map Prod.fst
  rw [hperm.nodup_iff, List.nodup_append']
  refine ⟨hfixed.nodup (by decide), nodup_keys_stringTable system d, ?_⟩
  intro name hname hstring
  exact not_mem_fixedNames_of_string hstring (hfixed.subset hname)

/-! ### Looking up a string -/

/-- **The name of a string** is looked up among the properties of that string, if there is an input
for it. -/
theorem get?_string (hsystem : system.isGeneral = false) {number : Nat} {name : String}
    (hname : name ∈ system.stringNames number) :
    (system.payload d country setting).properties.get? name =
      if 1 ≤ number ∧ number ≤ system.maxMppt then
        (d.stringProperties system.stringFlag system.stringAlias number).get? name
      else none := by
  have hfixed : (system.fixedProperties d country setting).get? name = none :=
    Assoc.get?_eq_none fun h => system.not_mem_fixedNames hname
      ((keys_fixedProperties system d country setting).subset h)
  rw [Assoc.get?_of_perm (properties_perm hsystem) (nodup_keys_properties hsystem),
    Assoc.get?_append, hfixed, Option.none_or, stringTable, allStringProperties,
    Assoc.get?_flatMap number]
  · exact if_congr (by simp [List.mem_range'_1]; omega) rfl rfl
  · intro n _ hn
    exact Assoc.get?_eq_none fun h =>
      system.disjoint_stringNames hn ((keys_stringProperties system d n).subset h) hname

/-- **The flag of a string**: there is one for each input of the system. -/
theorem get?_stringFlag (hsystem : system.isGeneral = false) (number : Nat) :
    (system.payload d country setting).properties.get? (system.stringFlag number) =
      if 1 ≤ number ∧ number ≤ system.maxMppt then
        some (.bool (d.selectedString? number).isSome)
      else none := by
  rw [get?_string hsystem (List.mem_pair.mpr (Or.inl rfl))]
  refine if_congr Iff.rfl ?_ rfl
  unfold stringProperties
  cases d.selectedString? number <;> simp [Assoc.get?]

/-- **The name of a string** is given for each input with a string that is selected. -/
theorem get?_stringAlias (hsystem : system.isGeneral = false) (number : Nat) :
    (system.payload d country setting).properties.get? (system.stringAlias number) =
      if 1 ≤ number ∧ number ≤ system.maxMppt then
        (d.selectedString? number).map fun s => .str s.name
      else none := by
  rw [get?_string hsystem (List.mem_pair.mpr (Or.inr rfl))]
  refine if_congr Iff.rfl ?_ rfl
  have hflag : system.stringFlag number ≠ system.stringAlias number :=
    system.stringFlag_ne_stringAlias number number
  unfold stringProperties
  cases d.selectedString? number <;> simp [Assoc.get?, hflag]

end StorageSystem

/-! ### The protocol -/

/-- The names of the five items of the string at a place. -/
def stringItemNames (number : Nat) : List String :=
  [s!"Alias MPPT{number}", s!"Wert MPPT{number} [Wp]", s!"Ausrichtung MPPT{number}",
    s!"Modultyp MPPT{number}", s!"Modulanzahl MPPT{number}"]

/-- A protocol names the string at a place: it has all five items. -/
def SetupProtocol.Names (p : SetupProtocol) (number : Nat) : Prop :=
  ∀ name ∈ stringItemNames number,
    ∃ item ∈ p.items, item.category = DcString.category ∧ item.name = name

/-- A string that is selected is among the contents, under its place counted from one. -/
theorem mem_stringContents {s : DcString} {c : StringContent} :
    ∀ {strings : List DcString} {number i : Nat}, strings[i]? = some s →
      s.content? (number + i) = some c → c ∈ stringContents number strings
  | t :: rest, number, 0, hs, hc => by
    obtain rfl := Option.some.inj hs
    exact List.mem_append_left _ (Option.mem_toList.mpr hc)
  | t :: rest, number, i + 1, hs, hc => by
    refine List.mem_append_right _ (mem_stringContents (i := i) hs ?_)
    rw [show number + 1 + i = number + (i + 1) by omega]
    exact hc

/-- The item with the name of a string is one item of that string only. -/
theorem StringContent.eq_of_alias {c : StringContent} {item : ProtocolItem} {number : Nat}
    (hitem : item ∈ c.items) (hname : item.name = s!"Alias MPPT{number}") :
    c.number = number ∧ item.value = c.name := by
  simp only [StringContent.items, List.mem_cons, List.not_mem_nil, or_false] at hitem
  rcases hitem with rfl | rfl | rfl | rfl | rfl
  · exact ⟨toString_injective ((String.append_right_inj "Alias MPPT").mp hname), rfl⟩
  · refine absurd (String.append_assoc.symm.trans hname) ?_
    exact append_ne_append "Wert MPPT" "Alias MPPT" (by decide) _ _
  · exact absurd hname (append_ne_append "Ausrichtung MPPT" "Alias MPPT" (by decide) _ _)
  · exact absurd hname (append_ne_append "Modultyp MPPT" "Alias MPPT" (by decide) _ _)
  · exact absurd hname (append_ne_append "Modulanzahl MPPT" "Alias MPPT" (by decide) _ _)

namespace Installation

variable {d : Installation} {edgeId : String} {p : SetupProtocol} {number : Nat}

/-- The item with the name of a string says what the string is called. -/
theorem name_of_alias (hp : d.protocol edgeId = .ok p) {item : ProtocolItem}
    (hitem : item ∈ p.items) (hcategory : item.category = DcString.category)
    (hname : item.name = s!"Alias MPPT{number}") :
    ∃ s, d.selectedString? number = some s ∧ item.value = s.name := by
  obtain rfl := protocol_eq hp
  have hsection : item ∈ (d.content edgeId).strings.flatMap StringContent.items :=
    Content.mem_section hitem (by simp [Content.sections, hcategory])
  obtain ⟨c, hc, hitem⟩ := List.mem_flatMap.mp hsection
  obtain ⟨i, s, hs, hselected, hnumber, hcname, -⟩ := exists_of_mem_stringContents hc
  obtain ⟨hsame, hvalue⟩ := StringContent.eq_of_alias hitem hname
  refine ⟨s, ?_, hvalue.trans hcname⟩
  rw [selectedString?, show number - 1 = i by omega, hs, Option.filter_some_pos hselected]

/-- **A protocol names the strings that are selected**, at whatever place. -/
theorem names_iff (hp : d.protocol edgeId = .ok p) (hnumber : 1 ≤ number) :
    p.Names number ↔ (d.selectedString? number).isSome = true := by
  constructor
  · intro h
    obtain ⟨item, hitem, hcategory, hname⟩ := h _ (List.mem_cons_self ..)
    obtain ⟨s, hs, -⟩ := name_of_alias hp hitem hcategory hname
    rw [hs, Option.isSome_some]
  · intro h
    obtain ⟨s, hs⟩ := Option.isSome_iff_exists.mp h
    obtain ⟨hplace, hselected⟩ := Option.filter_eq_some_iff.mp hs
    obtain ⟨c, hc⟩ : ∃ c, s.content? number = some c := ⟨_, if_pos hselected⟩
    have hmem : c ∈ stringContents 1 d.pv.dc :=
      mem_stringContents hplace (by rw [show 1 + (number - 1) = number by omega, hc])
    obtain rfl : _ = c := Option.some.inj ((if_pos hselected).symm.trans hc)
    obtain rfl := protocol_eq hp
    have hitems : ∀ item ∈ StringContent.items ⟨number, s.name, Json.peak s.value, s.orientation,
        s.moduleType, s.modulesPerString⟩, item ∈ (d.content edgeId).protocol.items := by
      intro item hitem
      refine List.mem_flatMap.mpr
        ⟨(DcString.category, (stringContents 1 d.pv.dc).flatMap StringContent.items), ?_,
          List.mem_flatMap.mpr ⟨_, hmem, hitem⟩⟩
      simp [Content.sections, content]
    simp only [StringContent.items, List.forall_mem_cons] at hitems
    obtain ⟨hname, hvalue, horientation, htype, hmodules, -⟩ := hitems
    intro name hmember
    simp only [stringItemNames, List.mem_cons, List.not_mem_nil, or_false] at hmember
    rcases hmember with rfl | rfl | rfl | rfl | rfl
    · exact ⟨_, hname, rfl, rfl⟩
    · exact ⟨_, hvalue, rfl, rfl⟩
    · exact ⟨_, horientation, rfl, rfl⟩
    · exact ⟨_, htype, rfl, rfl⟩
    · exact ⟨_, hmodules, rfl, rfl⟩

end Installation

/-! ### Both -/

namespace StorageSystem

/-- **The settings of the app and the setup protocol name the same strings.** The flag of a place is
set exactly if the place is one of the inputs of the system and the protocol has the five items for
it; then the settings have a name for it, which is what the protocol says under the name of the
string. An installation that can be written has a protocol. -/
theorem strings_named_alike {system : StorageSystem} (hsystem : system.isGeneral = false)
    (d : Installation) (country : SafetyCountry) (setting : FeedInSetting) (edgeId : String) :
    (∀ p, d.protocol edgeId = .ok p → ∀ number, 1 ≤ number →
      ((system.payload d country setting).properties.get? (system.stringFlag number) =
          some (.bool true) ↔ number ≤ system.maxMppt ∧ p.Names number) ∧
      ((system.payload d country setting).properties.get? (system.stringFlag number) =
          some (.bool true) →
        ∃ name, (system.payload d country setting).properties.get? (system.stringAlias number) =
            some (.str name) ∧
          ∀ item ∈ p.items, item.category = DcString.category →
            item.name = s!"Alias MPPT{number}" → item.value = name)) ∧
    (d.IsWritable → ∃ p, d.protocol edgeId = .ok p) := by
  refine ⟨fun p hp number hnumber => ?_, fun hw => d.exists_protocol hw edgeId⟩
  have hflag : (system.payload d country setting).properties.get? (system.stringFlag number) =
      some (.bool true) ↔ number ≤ system.maxMppt ∧ p.Names number := by
    rw [get?_stringFlag hsystem, d.names_iff hp hnumber]
    by_cases hle : number ≤ system.maxMppt <;> simp [hnumber, hle]
  refine ⟨hflag, fun hset => ?_⟩
  obtain ⟨hle, hnames⟩ := hflag.mp hset
  obtain ⟨s, hs⟩ := Option.isSome_iff_exists.mp ((d.names_iff hp hnumber).mp hnames)
  refine ⟨s.name, ?_, fun item hitem hcategory hname => ?_⟩
  · rw [get?_stringAlias hsystem, if_pos ⟨hnumber, hle⟩, hs, Option.map_some]
  · obtain ⟨s', hs', hvalue⟩ := Installation.name_of_alias hp hitem hcategory hname
    rw [hvalue, Option.some.inj (hs'.symm.trans hs)]

/-- An installation with three strings, of which the last two are selected. -/
def threeStrings : Installation :=
  { pv := { dc := [{}, { isSelected := true, name := "Dach" }, { isSelected := true }] } }

/-- The second string is named in both. -/
theorem strings_named_alike_second :
    (home20.payload threeStrings .germany .undefined).properties.get? "HAS_MPPT_2" =
        some (.bool true) ∧
    ∃ p, threeStrings.protocol "edge0" = .ok p ∧ p.Names 2 := by
  have hwritable : threeStrings.IsWritable :=
    show (Json.chars threeStrings.toJson).isSome = true by decide +kernel
  have hnamed := strings_named_alike (show home20.isGeneral = false from rfl) threeStrings .germany
    .undefined "edge0"
  obtain ⟨p, hp⟩ := hnamed.2 hwritable
  have hset : (home20.payload threeStrings .germany .undefined).properties.get?
      (home20.stringFlag 2) = some (.bool true) := rfl
  exact ⟨hset, p, hp, ((hnamed.1 p hp 2 (by decide)).1.mp hset).2⟩

/-- **Behind the inputs** a string that is selected is named in the protocol only. -/
theorem not_strings_named_alike :
    home20.isGeneral = false ∧
    (home20.payload threeStrings .germany .undefined).properties.get? (home20.stringFlag 3) =
      none ∧
    ∃ p, threeStrings.protocol "edge0" = .ok p ∧ p.Names 3 := by
  have hwritable : threeStrings.IsWritable :=
    show (Json.chars threeStrings.toJson).isSome = true by decide +kernel
  obtain ⟨p, hp⟩ := threeStrings.exists_protocol hwritable "edge0"
  exact ⟨rfl, rfl, p, hp, (threeStrings.names_iff hp (by decide)).mpr rfl⟩

end StorageSystem

end Commissioning
