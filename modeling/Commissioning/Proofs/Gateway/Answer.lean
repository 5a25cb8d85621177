import Commissioning.Gateway.Basic
import Commissioning.Proofs.Json.Reading

/-!
# What comes of a call of the gateway

A call of the gateway (`Commissioning.Gateway.archive`) sends one request and reads the answer.
It gives an identifier exactly if a response of success that is said to be JSON has a body that
names one (`Commissioning.Gateway.archive_eq_ok_iff`): an object without an error, whose result is
an object with an identifier that is neither absent nor empty. Whatever document the identifier
is, it has a text, and the text is not empty (`Commissioning.Exchange.Names.exists_display`).

Every other outcome should be an orderly failure, and all but three are
(`Commissioning.Gateway.orderly_archive_iff`): the address of the gateway has a fault, the body of
an error response breaks off, or the body of a response of success is beyond measure. The texts of
codes and messages that are put together for a failure never stand in the way, because what was
read can be shown (`Commissioning.Json.exists_display`).
-/

namespace Commissioning

/-! ### Values shown -/

namespace Json

mutual

theorem isSome_innerChars : ∀ {j : Json}, IsWritable j → (innerChars j).isSome = true
  | .null, _ => rfl
  | .bool _, _ => rfl
  | .int i, h => by
    rw [innerChars, intChars?, if_pos (isWritable_int.mp h)]
    rfl
  | .float _, _ => rfl
  | .str _, _ => rfl
  | .torn _, _ => rfl
  | .arr items, h => by
    rw [innerChars, Option.isSome_map]
    exact isSome_innerItems items (isWritable_arr.mp h)
  | .obj members, h => by
    rw [innerChars, Option.isSome_map]
    exact isSome_innerMembers members (isWritable_obj.mp h)

theorem isSome_innerItems : ∀ js : List Json, (∀ j ∈ js, IsWritable j) →
    (innerItems js).isSome = true
  | [], _ => rfl
  | [j], h => isSome_innerChars (h j (by simp))
  | j :: k :: js, h => by
    obtain ⟨cs, hcs⟩ := Option.isSome_iff_exists.mp (isSome_innerChars (h j (by simp)))
    obtain ⟨ds, hds⟩ := Option.isSome_iff_exists.mp
      (isSome_innerItems (k :: js) fun i hi => h i (List.mem_cons_of_mem _ hi))
    rw [innerItems, hcs, hds]
    · rfl
    · simp

theorem isSome_innerMembers : ∀ ms : List (String × Json), (∀ m ∈ ms, IsWritable m.2) →
    (innerMembers ms).isSome = true
  | [], _ => rfl
  | [(name, j)], h => by
    rw [innerMembers, Option.isSome_map]
    exact isSome_innerChars (h (name, j) (by simp))
  | (name, j) :: m :: ms, h => by
    obtain ⟨cs, hcs⟩ := Option.isSome_iff_exists.mp (isSome_innerChars (h (name, j) (by simp)))
    obtain ⟨ds, hds⟩ := Option.isSome_iff_exists.mp
      (isSome_innerMembers (m :: ms) fun i hi => h i (List.mem_cons_of_mem _ hi))
    rw [innerMembers, hcs, hds]
    · rfl
    · simp

end

/-- **What can be written can be shown.** -/
theorem exists_display {j : Json} (h : IsWritable j) : ∃ s, j.display? = some s := by
  cases j with
  | str s => exact ⟨s, rfl⟩
  | torn t => exact ⟨t.shown, rfl⟩
  | _ =>
    obtain ⟨cs, hcs⟩ := Option.isSome_iff_exists.mp (isSome_innerChars h)
    exact ⟨String.ofList cs, congrArg (Option.map String.ofList) hcs⟩

end Json

theorem Decimal.chars_ne_nil (layout : FloatLayout) (d : Decimal) : d.chars layout ≠ [] := by
  unfold Decimal.chars
  split
  · simp
  · dsimp only
    split
    · unfold positional
      split
      · simp
      split <;> simp
    · simp [scientific]

theorem Binary64.chars_ne_nil (x : Binary64) : x.chars plainLayout ≠ [] := by
  cases x with
  | nan => simp [chars, plainLayout]
  | infinite negative => simp [chars, plainLayout]
  | finite negative u h => simp [chars, Decimal.chars_ne_nil]

namespace Json

theorem innerChars_ne_nil {j : Json} {cs : List Char} (h : innerChars j = some cs) : cs ≠ [] := by
  cases j with
  | null =>
    obtain rfl := Option.some.inj h
    decide
  | bool b =>
    obtain rfl := Option.some.inj h
    cases b <;> decide
  | int i =>
    rw [innerChars, intChars?] at h
    split at h
    · obtain rfl := Option.some.inj h
      have hdigits := natChars_ne_nil i.natAbs
      unfold intChars
      split <;> simp [hdigits]
    · cases h
  | float x =>
    obtain rfl := Option.some.inj h
    exact x.chars_ne_nil
  | str s =>
    obtain rfl := Option.some.inj h
    simp [Text.quotedChars]
  | torn t =>
    obtain rfl := Option.some.inj h
    simp [Text.quotedChars]
  | arr items =>
    obtain ⟨ds, -, rfl⟩ := Option.map_eq_some_iff.mp h
    simp
  | obj members =>
    obtain ⟨ds, -, rfl⟩ := Option.map_eq_some_iff.mp h
    simp

/-- **Only the empty text is shown by an empty text.** -/
theorem display?_ne_empty {j : Json} {s : String} (h : j.display? = some s) (hj : j ≠ .str "") :
    s ≠ "" := by
  rintro rfl
  cases j with
  | str t => exact hj (congrArg Json.str (Option.some.inj h))
  | torn t =>
    have hempty : t.signs.map Sign.shown = [] :=
      String.ofList_eq_empty_iff.mp (Option.some.inj h)
    have hhalf := t.replacementChar_mem
    rw [hempty] at hhalf
    cases hhalf
  | _ =>
    rw [display?] at h
    · obtain ⟨cs, hcs, hempty⟩ := Option.map_eq_some_iff.mp h
      exact innerChars_ne_nil hcs (String.ofList_eq_empty_iff.mp hempty)
    · simp
    · simp

theorem display_eq_ok_iff {j : Json} {s : String} : j.display = .ok s ↔ j.display? = some s := by
  unfold display
  cases j.display? <;> simp

end Json

theorem Text.occursIn_iff {part cs : List Char} : occursIn part cs = true ↔ part <:+: cs := by
  induction cs with
  | nil => simp [occursIn]
  | cons c cs ih => simp [occursIn, List.infix_cons_iff, ih]

/-! ### Bodies that name an identifier -/

namespace Exchange

/-- **The body names an identifier by the value**: it is an object without an error, whose result
is an object that has the value for an identifier, neither absent nor empty. -/
structure Names (body : String) (value : Json) : Prop where
  answer : ∃ ms result : Members, Json.read body = .ok (.obj ms) ∧
    (∀ e, ms.get? "error" ≠ some (.obj e)) ∧ ms.get? "result" = some (.obj result) ∧
    result.get? protocolIdKey = some value
  ne_null : value ≠ .null
  ne_empty : value ≠ .str ""

/-- A response of success that is said to be JSON, with the body. -/
def Delivers (x : Exchange) (body : String) : Prop :=
  ∃ status contentType bytes, x = .response status contentType (.ok bytes) ∧
    (status = 200 ∨ status = 201) ∧
    "application/json".toList <:+: (contentType.getD "").toList.map Char.toLower ∧
    bodyText bytes = body

variable {body : String} {value : Json}

theorem Names.unique (h : Names body value) {other : Json} (hother : Names body other) :
    value = other := by
  obtain ⟨ms, result, hread, -, hresult, hvalue⟩ := h.answer
  obtain ⟨ms', result', hread', -, hresult', hvalue'⟩ := hother.answer
  obtain rfl := Json.obj.inj (Except.ok.inj (hread.symm.trans hread'))
  obtain rfl := Json.obj.inj (Option.some.inj (hresult.symm.trans hresult'))
  exact Option.some.inj (hvalue.symm.trans hvalue')

/-- An exchange delivers one body. -/
theorem Delivers.unique {x : Exchange} (h : x.Delivers body) {other : String}
    (hother : x.Delivers other) : body = other := by
  obtain ⟨_, _, bytes, rfl, -, -, rfl⟩ := h
  obtain ⟨_, _, bytes', hx, -, -, rfl⟩ := hother
  obtain ⟨-, -, hbytes⟩ := Exchange.response.inj hx
  obtain rfl := Except.ok.inj hbytes
  rfl

/-- **What names an identifier has a text**, and it is not empty. -/
theorem Names.exists_display (h : Names body value) :
    ∃ id, value.display? = some id ∧ id ≠ "" := by
  obtain ⟨ms, result, hread, -, hresult, hvalue⟩ := h.answer
  have hms := Json.isWritable_obj.mp (Json.isWritable_of_read hread)
  have hresult := Json.isWritable_obj.mp (hms _ (Assoc.mem_of_get? hresult))
  obtain ⟨id, hid⟩ := Json.exists_display (hresult _ (Assoc.mem_of_get? hvalue))
  exact ⟨id, hid, Json.display?_ne_empty hid h.ne_empty⟩

/-! ### The steps of reading an answer -/

theorem read_empty : Json.read "" = .error (.malformed .value 0) := rfl

/-- An empty body is malformed, so one that is not is not empty. -/
theorem ne_empty_of_read {r : Except Json.ReadError Json} (h : Json.read body = r)
    (hr : ∀ what left, r ≠ .error (.malformed what left)) : body ≠ "" := by
  rintro rfl
  exact hr _ _ (h.symm.trans read_empty)

theorem document_ok {j : Json} (h : Json.read body = .ok j) : document body = .ok j := by
  have hne : body ≠ "" := ne_empty_of_read h (by simp)
  rw [document, if_neg (by simpa using hne), h]

theorem document_beyond {what : Json.Excess} (h : Json.read body = .error (.beyond what)) :
    document body = .error (.excess what) := by
  have hne : body ≠ "" := ne_empty_of_read h (by simp)
  rw [document, if_neg (by simpa using hne), h]

/-- An object with an error is turned down, whatever its code and its message are. -/
theorem result_of_error {ms e : Members} (he : ms.get? "error" = some (.obj e))
    (hms : ∀ m ∈ ms, m.2.IsWritable) : ∃ detail, result ms = .error (.rejected 502 detail) := by
  have hpart : ∀ name, ∃ text, errorPart e name = .ok text := fun name => by
    have hvalue : ((e.get? name).getD .null).IsWritable := by
      cases hname : e.get? name with
      | none => rfl
      | some j =>
        exact Json.isWritable_obj.mp (hms _ (Assoc.mem_of_get? he)) _ (Assoc.mem_of_get? hname)
    obtain ⟨text, htext⟩ := Json.exists_display hvalue
    exact ⟨text, by rw [errorPart, Json.display_eq_ok_iff.mpr htext]; rfl⟩
  obtain ⟨code, hcode⟩ := hpart "code"
  obtain ⟨message, hmessage⟩ := hpart "message"
  rw [result, he]
  simp only [hcode, hmessage]
  exact ⟨_, rfl⟩

theorem result_of_no_error {ms : Members} (h : ∀ e, ms.get? "error" ≠ some (.obj e)) :
    result ms = .ok ((ms.get? "result").getD .null) := by
  unfold result
  split
  · next e he => exact absurd he (h e)
  · rfl

/-- A result that has a value for an identifier, neither absent nor empty. -/
theorem idOfResult_of_some {ms : Members} {id : String} (h : ms.get? protocolIdKey = some value)
    (hnull : value ≠ .null) (hempty : value ≠ .str "") (hid : value.display? = some id) :
    idOfResult (.obj ms) = .ok id := by
  simp only [idOfResult, h, Option.getD_some, Json.display_eq_ok_iff.mpr hid]
  rfl

/-- Any other result is turned down. -/
theorem idOfResult_of_none {j : Json} (h : ∀ ms value, j = .obj ms →
    Assoc.get? ms protocolIdKey = some value → value = .null ∨ value = .str "") :
    ∃ detail, idOfResult j = .error (.rejected 502 detail) := by
  refine ⟨s!"{archiveMethod} returned no {protocolIdKey}", ?_⟩
  cases j with
  | obj ms =>
    cases hvalue : Assoc.get? ms protocolIdKey with
    | none => simp only [idOfResult, hvalue, Option.getD_none]
    | some value =>
      rcases h ms value rfl hvalue with rfl | rfl <;>
        simp only [idOfResult, hvalue, Option.getD_some]
  | _ => rfl

/-- **The object of a body** gives the identifier that it names, or is turned down. -/
theorem object_cases {ms : Members} (hread : Json.read body = .ok (.obj ms)) :
    (∃ value id, Names body value ∧ value.display? = some id ∧
        result ms >>= idOfResult = .ok id) ∨
      (∀ value, ¬Names body value) ∧
        ∃ detail, result ms >>= idOfResult = .error (.rejected 502 detail) := by
  have hobject : ∀ ms', Json.read body = .ok (.obj ms') → ms' = ms := fun ms' h =>
    Json.obj.inj (Except.ok.inj (h.symm.trans hread))
  by_cases herror : ∃ e, ms.get? "error" = some (.obj e)
  · obtain ⟨e, he⟩ := herror
    obtain ⟨detail, hdetail⟩ :=
      result_of_error he (Json.isWritable_obj.mp (Json.isWritable_of_read hread))
    refine Or.inr ⟨fun value hnames => ?_, detail, by rw [hdetail]; rfl⟩
    obtain ⟨ms', _, hread', hno, -, -⟩ := hnames.answer
    obtain rfl := hobject ms' hread'
    exact hno e he
  · have hno : ∀ e, ms.get? "error" ≠ some (.obj e) := fun e he => herror ⟨e, he⟩
    have hresult : result ms >>= idOfResult = idOfResult ((ms.get? "result").getD .null) := by
      rw [result_of_no_error hno]
      rfl
    rw [hresult]
    by_cases hnamed : ∃ value, Names body value
    · obtain ⟨value, hnames⟩ := hnamed
      obtain ⟨ms', r, hread', -, hr, hvalue⟩ := hnames.answer
      obtain rfl := hobject ms' hread'
      obtain ⟨id, hid, -⟩ := hnames.exists_display
      refine Or.inl ⟨value, id, hnames, hid, ?_⟩
      rw [hr, Option.getD_some, idOfResult_of_some hvalue hnames.ne_null hnames.ne_empty hid]
    · refine Or.inr ⟨fun value h => hnamed ⟨value, h⟩, ?_⟩
      refine idOfResult_of_none fun r value hr hvalue => ?_
      cases hfield : ms.get? "result" with
      | none =>
        rw [hfield] at hr
        cases hr
      | some j =>
        rw [hfield, Option.getD_some] at hr
        rw [hr] at hfield
        refine Classical.or_iff_not_imp_left.mpr fun hnull => ?_
        refine Classical.byContradiction fun hempty => ?_
        exact hnamed ⟨value, ⟨ms, r, hread, hno, hfield, hvalue⟩, hnull, hempty⟩

/-! ### Answers -/

variable {x : Exchange}

theorem protocolId_of_delivers (h : x.Delivers body) :
    x.protocolId = (document body >>= fun j => match j with
      | .obj ms => result ms
      | _ => .error (.rejected 502 "Backend JSON-RPC response is not an object")) >>=
      idOfResult := by
  obtain ⟨status, contentType, bytes, rfl, hstatus, hjson, rfl⟩ := h
  have hstatus' : ¬(status ≠ 200 ∧ status ≠ 201) := by omega
  have hjson' : isJson (contentType.getD "") = true := Text.occursIn_iff.mpr hjson
  simp only [protocolId, answer, bind, Except.bind, resultOf, if_neg hstatus', hjson']
  rfl

/-- A body that is no object names nothing. -/
theorem not_names_of_read {r : Except Json.ReadError Json} (hread : Json.read body = r)
    (h : ∀ ms, r ≠ .ok (.obj ms)) : ∀ value, ¬Names body value := fun value hnames => by
  obtain ⟨ms, -, hms, -⟩ := hnames.answer
  exact h ms (hread.symm.trans hms)

/-- **The outcome of a response** that delivers a body: the identifier that it names, an error
because it is beyond measure, and otherwise an orderly failure. -/
theorem delivers_cases (h : x.Delivers body) :
    (∃ value id, Names body value ∧ value.display? = some id ∧ x.protocolId = .ok id) ∨
      (∀ value, ¬Names body value) ∧
        ((∃ what, Json.read body = .error (.beyond what) ∧ x.protocolId = .error (.excess what)) ∨
          (∀ what, Json.read body ≠ .error (.beyond what)) ∧
            ∃ status detail, x.protocolId = .error (.rejected status detail)) := by
  rw [protocolId_of_delivers h]
  cases hread : Json.read body with
  | error e =>
    refine Or.inr ⟨not_names_of_read hread (by simp), ?_⟩
    cases e with
    | beyond what =>
      refine Or.inl ⟨what, rfl, ?_⟩
      rw [document_beyond hread]
      rfl
    | malformed what left =>
      refine Or.inr ⟨by simp, ?_⟩
      -- An empty body is malformed, but counts as an empty object.
      by_cases hbody : body = ""
      · rw [document, hbody]
        exact ⟨_, _, rfl⟩
      · rw [document, if_neg (by simpa using hbody), hread]
        exact ⟨_, _, rfl⟩
  | ok j =>
    rw [document_ok hread]
    cases j with
    | obj ms =>
      rcases object_cases hread with hnamed | ⟨hno, detail, hdetail⟩
      · exact Or.inl hnamed
      · exact Or.inr ⟨hno, Or.inr ⟨by simp, 502, detail, hdetail⟩⟩
    | _ => exact Or.inr ⟨not_names_of_read hread (by simp), Or.inr ⟨by simp, _, _, rfl⟩⟩

/-- **The outcome of any other exchange** is an orderly failure, unless it is an error response
whose body breaks off. -/
theorem not_delivers_cases (h : ∀ body, ¬x.Delivers body) :
    (∃ status why, x = .errorResponse status (.error why) ∧
        x.protocolId = .error (.unreadBody why)) ∨
      (∀ status why, x ≠ .errorResponse status (.error why)) ∧
        ∃ status detail, x.protocolId = .error (.rejected status detail) := by
  have hrejected : ∀ why, ∃ status detail, rejectedBy why = .rejected status detail := fun why => by
    cases why <;> exact ⟨_, _, rfl⟩
  match x, h with
  | .failed why, _ =>
    obtain ⟨status, detail, hwhy⟩ := hrejected why
    exact Or.inr ⟨by simp, status, detail, congrArg Except.error hwhy⟩
  | .errorResponse status (.ok bytes), _ => exact Or.inr ⟨by simp, status, bodyText bytes, rfl⟩
  | .errorResponse status (.error why), _ => exact Or.inl ⟨status, why, rfl, rfl⟩
  | .response status contentType (.error why), _ =>
    obtain ⟨status, detail, hwhy⟩ := hrejected why
    exact Or.inr ⟨by simp, status, detail, congrArg Except.error hwhy⟩
  | .response status contentType (.ok bytes), h =>
    have hresult : ∃ status' detail, resultOf status (contentType.getD "") (bodyText bytes) =
        .error (.rejected status' detail) := by
      unfold resultOf
      split
      · exact ⟨_, _, rfl⟩
      · next hstatus =>
        have hjson : isJson (contentType.getD "") = false := by
          rw [← Bool.not_eq_true]
          intro hjson
          have hsuccess : status = 200 ∨ status = 201 := by omega
          exact h _ ⟨status, contentType, bytes, rfl, hsuccess, Text.occursIn_iff.mp hjson, rfl⟩
        rw [hjson]
        exact ⟨_, _, rfl⟩
    obtain ⟨status', detail, hresult⟩ := hresult
    refine Or.inr ⟨by simp, status', detail, ?_⟩
    simp only [protocolId, answer, bind, Except.bind, hresult]

end Exchange

/-! ### Calls -/

/-- **What the caller is told in good order**: an identifier that is not empty, or that the
protocol was not archived. -/
def Orderly : Except GatewayError String → Prop
  | .ok id => id ≠ ""
  | .error (.rejected ..) => True
  | .error _ => False

namespace Gateway

/-- **A call of the gateway**: the request is sent, if there is one, and the answer is read. -/
def archive (g : Gateway) (requestId : String) (p : SetupProtocol)
    (send : GatewayRequest → Exchange) : Except GatewayError String := do
  let request ← g.request requestId p
  (send request).protocolId

variable {g : Gateway} {requestId : String} {p : SetupProtocol}
  {send : GatewayRequest → Exchange} {request : GatewayRequest}

theorem archive_of_request (h : g.request requestId p = .ok request) :
    g.archive requestId p send = (send request).protocolId := by
  rw [archive, h]
  rfl

/-- **Without a request** the failure is not orderly. -/
theorem not_orderly_of_request {e : GatewayError} (h : g.request requestId p = .error e)
    (send : GatewayRequest → Exchange) :
    ∃ e, g.archive requestId p send = .error e ∧ ¬Orderly (.error e) := by
  refine ⟨e, by rw [archive, h]; rfl, ?_⟩
  unfold request at h
  dsimp only at h
  split at h
  · obtain rfl := Except.error.inj h
    exact id
  · split at h
    · obtain rfl := Except.error.inj h
      exact id
    · cases h

/-- **A call gives an identifier** exactly if a response of success that is said to be JSON has a
body that names it. -/
theorem archive_eq_ok_iff {id : String} :
    g.archive requestId p send = .ok id ↔ ∃ request body value,
      g.request requestId p = .ok request ∧ (send request).Delivers body ∧
        Exchange.Names body value ∧ value.display? = some id := by
  cases hrequest : g.request requestId p with
  | error e =>
    obtain ⟨e', he', -⟩ := not_orderly_of_request hrequest send
    simp [he']
  | ok request =>
    rw [archive_of_request hrequest]
    constructor
    · intro h
      by_cases hdelivers : ∃ body, (send request).Delivers body
      · obtain ⟨body, hbody⟩ := hdelivers
        rcases Exchange.delivers_cases hbody with ⟨value, id', hnames, hid, hok⟩ | ⟨-, herror⟩
        · obtain rfl := Except.ok.inj (hok.symm.trans h)
          exact ⟨request, body, value, rfl, hbody, hnames, hid⟩
        · rcases herror with ⟨_, -, herror⟩ | ⟨-, _, _, herror⟩ <;> cases herror.symm.trans h
      · rcases Exchange.not_delivers_cases fun body hbody => hdelivers ⟨body, hbody⟩ with
          ⟨_, _, -, herror⟩ | ⟨-, _, _, herror⟩ <;> cases herror.symm.trans h
    · rintro ⟨request', body, value, hrequest', hbody, hnames, hid⟩
      obtain rfl := Except.ok.inj hrequest'
      rcases Exchange.delivers_cases hbody with ⟨value', id', hnames', hid', hok⟩ | ⟨hno, -⟩
      · obtain rfl := hnames.unique hnames'
        obtain rfl := Option.some.inj (hid.symm.trans hid')
        exact hok
      · exact absurd hnames (hno value)

/-- **The outcome of a call is in good order** exactly if its address is, no error response breaks
off in its body, and no response of success has a body beyond measure. -/
theorem orderly_archive_iff :
    Orderly (g.archive requestId p send) ↔ ∃ request, g.request requestId p = .ok request ∧
      (∀ status why, send request ≠ .errorResponse status (.error why)) ∧
      ∀ body, (send request).Delivers body → ∀ what, Json.read body ≠ .error (.beyond what) := by
  cases hrequest : g.request requestId p with
  | error e =>
    obtain ⟨e', he', hno⟩ := not_orderly_of_request hrequest send
    simp [he', hno]
  | ok request =>
    rw [archive_of_request hrequest]
    simp only [Except.ok.injEq, exists_eq_left']
    by_cases hdelivers : ∃ body, (send request).Delivers body
    · obtain ⟨body, hbody⟩ := hdelivers
      have hresponse : ∀ status why, send request ≠ .errorResponse status (.error why) := by
        obtain ⟨_, _, _, hsend, -⟩ := hbody
        simp [hsend]
      have honly : (∀ body', (send request).Delivers body' →
            ∀ what, Json.read body' ≠ .error (.beyond what)) ↔
          ∀ what, Json.read body ≠ .error (.beyond what) :=
        ⟨fun h => h body hbody, fun h body' hbody' => hbody.unique hbody' ▸ h⟩
      rw [honly]
      rcases Exchange.delivers_cases hbody with ⟨value, id, hnames, hid, hok⟩ | ⟨-, herror⟩
      · obtain ⟨ms, _, hread, -⟩ := hnames.answer
        have hid' : id ≠ "" := Json.display?_ne_empty hid hnames.ne_empty
        simp [hok, Orderly, hid', hresponse, hread]
      · rcases herror with ⟨what, hread, herror⟩ | ⟨hread, status, detail, herror⟩
        · simp [herror, Orderly, hread]
        · simp [herror, Orderly, hresponse, hread]
    · have hnone : ∀ body, ¬(send request).Delivers body := fun body h => hdelivers ⟨body, h⟩
      rcases Exchange.not_delivers_cases hnone with
        ⟨status, why, hsend, herror⟩ | ⟨hsend, status, detail, herror⟩
      · rw [herror]
        simp [Orderly, hsend]
      · simp [herror, Orderly, hsend, hnone]

/-- **What a call gives.** An identifier comes exactly of a response of success that is said to be
JSON and has a body that names it; whatever names one has a text, and the text is not empty; and
if the address is in order, the outcome is in good order but for an error response that breaks off
in its body and for a body beyond measure. -/
theorem archive_outcome (g : Gateway) (requestId : String) (p : SetupProtocol)
    (send : GatewayRequest → Exchange) :
    (∀ id, g.archive requestId p send = .ok id ↔ ∃ request body value,
      g.request requestId p = .ok request ∧ (send request).Delivers body ∧
        Exchange.Names body value ∧ value.display? = some id) ∧
    (∀ body value, Exchange.Names body value → ∃ id, value.display? = some id ∧ id ≠ "") ∧
    (Orderly (g.archive requestId p send) ↔ ∃ request, g.request requestId p = .ok request ∧
      (∀ status why, send request ≠ .errorResponse status (.error why)) ∧
      ∀ body, (send request).Delivers body → ∀ what, Json.read body ≠ .error (.beyond what)) :=
  ⟨fun _ => archive_eq_ok_iff, fun _ _ hnames => hnames.exists_display, orderly_archive_iff⟩

/-- An error response breaks off in its body, at a gateway with an address in order. -/
theorem not_orderly_of_broken_body :
    ¬∀ (g : Gateway) (requestId : String) (p : SetupProtocol) (send : GatewayRequest → Exchange)
      (request : GatewayRequest), g.request requestId p = .ok request →
        Orderly (g.archive requestId p send) := by
  intro h
  have hbroken := h ⟨"http://backend:8079/jsonrpc", .int 20⟩ "request-1" default
    (fun _ => .errorResponse 500 (.error (.broken "ConnectionResetError" ""))) _ rfl
  obtain ⟨request, -, hsend, -⟩ := orderly_archive_iff.mp hbroken
  exact hsend 500 _ rfl

end Gateway

end Commissioning
