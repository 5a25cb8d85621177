import Commissioning.Live.Prepared
import Commissioning.Proofs.Except
import Commissioning.Proofs.Gateway.Answer
import Commissioning.Proofs.Number.Whole

/-!
# Waiting for an answer

A question to a device is answered by the first sample that is accepted. Samples come while
somebody waits, in a course that nobody controls (`Commissioning.Moment`): they may be looked at
one by one or many at a time, time may run out between them, and the wait may be broken off.

**If every sample is looked at before time is up** (`Commissioning.Moment.InTime`), it does not
matter how turns fall: the answer is the first acceptable one of all samples in the order in which
they came (`Commissioning.waitFor_eq_find?`). What is acceptable is said of the reported values
themselves, which may be of any kind (`Commissioning.Json.ReadsAs`,
`Commissioning.Json.CountsAs`), and not of the readers, which convert the values of an accepted
sample once more.

**Whatever a wait comes to, it leaves the feed opened once more and closed once more**
(`Commissioning.PreparedFeed.awaitAmid_eq`). All of this is put together for the two questions that
there are in `Commissioning.PreparedFeed.answered_once`.
-/

namespace Commissioning

/-! ### Reported values -/

namespace Json

variable {v : Json} {x : Binary64} {n : Int}

/-- **A value reads as a finite number**: it is no truth value, and the number is what it is
converted to. -/
structure ReadsAs (v : Json) (x : Binary64) : Prop where
  notBool : ∀ b, v ≠ .bool b
  converts : v.toBinary64 = .ok x
  finite : x.isFinite = true

/-- **A value counts as a whole number**: it reads as a number that is at least one, and this is
its integer part. -/
def CountsAs (v : Json) (n : Int) : Prop :=
  ∃ x, v.ReadsAs x ∧ 1 ≤ n ∧ (Number.int n).le (.float x) = true ∧
    (Number.float x).lt (.int (n + 1)) = true

theorem reading?_eq_some_iff : v.reading? = some x ↔ v.ReadsAs x := by
  have hfilter : v.toBinary64.toOption.filter Binary64.isFinite = some x ↔
      v.toBinary64 = .ok x ∧ x.isFinite = true := by
    rw [Option.filter_eq_some_iff]
    cases v.toBinary64 <;> simp [Except.toOption]
  cases v with
  | bool b => exact iff_of_false nofun fun h => h.notBool b rfl
  | null => exact iff_of_false nofun fun h => nomatch h.converts
  | _ => exact hfilter.trans ⟨fun h => ⟨nofun, h.1, h.2⟩, fun h => ⟨h.converts, h.finite⟩⟩

/-- The whole part of a number of at least one is its integer part. -/
theorem countReading?_eq_some_iff : v.countReading? = some n ↔ v.CountsAs n := by
  have hreading : v.countReading? = some n ↔
      ∃ x, v.ReadsAs x ∧ (Number.float x).lt (.int 1) = false ∧ x.toInt = .ok n := by
    simp only [countReading?, Option.bind_eq_bind, Option.bind_eq_some_iff, reading?_eq_some_iff]
    refine exists_congr fun x => and_congr_right fun _ => ?_
    cases (Number.float x).lt (.int 1) <;> cases x.toInt <;> simp [Except.toOption]
  refine hreading.trans (exists_congr fun x => and_congr_right fun h => ?_)
  obtain ⟨z, hz, -⟩ := Binary64.exists_units h.finite
  have hone := Binary64.one_pos_int
  rw [Number.lt_int hz, Number.int_le hz, Number.lt_int hz, decide_eq_false_iff_not,
    decide_eq_true_eq, decide_eq_true_eq, Int.one_mul, Int.not_lt]
  constructor
  · rintro ⟨hle, hint⟩
    obtain ⟨hlower, hupper⟩ := (Binary64.toInt_eq_ok_iff hz (by omega)).mp hint
    have hlt : 1 < n + 1 := Int.lt_of_mul_lt_mul_right (by omega) (Int.le_of_lt hone)
    exact ⟨by omega, hlower, hupper⟩
  · rintro ⟨hn, hlower, hupper⟩
    have hle : 1 * (Binary64.one : Int) ≤ n * Binary64.one :=
      Int.mul_le_mul_of_nonneg_right hn (Int.le_of_lt hone)
    exact ⟨by omega, (Binary64.toInt_eq_ok_iff hz (by omega)).mpr ⟨hlower, hupper⟩⟩

end Json

/-- A value that is reported in a message can be written down. -/
theorem Message.isWritable_value {m : Message} {v : Json} (h : m.value = .ok v) :
    v.IsWritable := by
  unfold value reportedValue at h
  dsimp only at h
  split at h
  · obtain rfl := Except.ok.inj h
    exact Json.isWritable_null
  · split at h
    · next j hread =>
      obtain rfl := Except.ok.inj h
      have hfits := Json.fits_readDocument (Text.trim (Text.ofBytes m.payload))
      rw [hread] at hfits
      exact hfits.1
    · obtain rfl := Except.ok.inj h
      exact Json.isWritable_str _
    · cases h

/-- The values of a sample are reported in messages. -/
def Sample.IsReported (s : Sample) : Prop :=
  ∀ channel v, s.get? channel = some v → ∃ m : Message, m.value = .ok v

theorem Sample.IsReported.isWritable_value {s : Sample} (h : s.IsReported) (channel : String) :
    (s.value channel).IsWritable := by
  rw [Sample.value]
  cases hv : s.get? channel with
  | none => exact Json.isWritable_null
  | some v =>
    obtain ⟨m, hm⟩ := h channel v hv
    exact m.isWritable_value hm

/-! ### The course of a wait -/

/-- An item is the first of a list that is of a kind. -/
def IsFirst {α : Type} (p : α → Prop) (xs : List α) (x : α) : Prop :=
  ∃ before after, xs = before ++ x :: after ∧ p x ∧ ∀ y ∈ before, ¬p y

theorem isFirst_iff_find? {α : Type} {p : α → Prop} {accepts : α → Bool}
    (haccepts : ∀ x, accepts x = true ↔ p x) {xs : List α} {x : α} :
    IsFirst p xs x ↔ xs.find? accepts = some x := by
  rw [List.find?_eq_some_iff_append, haccepts]
  constructor
  · rintro ⟨before, after, hxs, hx, hbefore⟩
    refine ⟨hx, before, after, hxs, fun y hy => ?_⟩
    rw [Bool.not_eq_true', ← Bool.not_eq_true, haccepts]
    exact hbefore y hy
  · rintro ⟨hx, before, after, hxs, hbefore⟩
    refine ⟨before, after, hxs, hx, fun y hy => ?_⟩
    rw [← haccepts, Bool.not_eq_true, ← Bool.not_eq_true']
    exact hbefore y hy

namespace Moment

/-- The samples that come in a course. -/
def samples : List Moment → List Sample
  | [] => []
  | .came s :: course => s :: samples course
  | .turn :: course => samples course
  | .brokenOff :: course => samples course

/-- **Every sample is looked at in time**: after it has come there is a turn, and the wait is not
broken off. -/
def InTime : List Moment → Prop
  | [] => True
  | .came _ :: course => .turn ∈ course ∧ InTime course
  | .turn :: course => InTime course
  | .brokenOff :: _ => False

end Moment

section Course

variable {queue : List Sample} {course : List Moment}

/-- **A wait in time** ends with the first sample that is accepted, of those in the queue and those
that come, wherever the turns fall. -/
theorem waitFor_eq_find? (accepts : Sample → Bool) (htime : Moment.InTime course)
    (hqueue : queue = [] ∨ .turn ∈ course) :
    waitFor accepts queue course = .ok ((queue ++ Moment.samples course).find? accepts) := by
  induction course generalizing queue with
  | nil =>
    obtain rfl : queue = [] := hqueue.resolve_right List.not_mem_nil
    rfl
  | cons moment course ih =>
    cases moment with
    | came s =>
      rw [waitFor, ih htime.2 (Or.inr htime.1), Moment.samples, List.append_assoc]
      rfl
    | turn =>
      rw [waitFor, Moment.samples, List.find?_append]
      -- What is left in the queue is dropped, and the wait goes on with an empty one.
      cases queue.find? accepts with
      | some s => rfl
      | none => exact ih htime (Or.inl rfl)
    | brokenOff => exact htime.elim

/-- If no sample is accepted, a wait goes on until it is broken off or time is up. -/
theorem waitFor_of_rejected (accepts : Sample → Bool) (queue : List Sample) (course : List Moment)
    (h : ∀ s ∈ queue ++ Moment.samples course, accepts s = false) :
    (.brokenOff ∉ course → waitFor accepts queue course = .ok none) ∧
      (.brokenOff ∈ course → waitFor accepts queue course = .error .interrupted) := by
  induction course generalizing queue with
  | nil => exact ⟨fun _ => rfl, fun hmem => absurd hmem List.not_mem_nil⟩
  | cons moment course ih =>
    cases moment with
    | came s =>
      have hrest := ih (queue ++ [s]) fun r hr => h r (by
        rwa [Moment.samples, List.append_cons])
      simpa [waitFor] using hrest
    | turn =>
      have hnone : queue.find? accepts = none :=
        List.find?_eq_none.mpr fun s hs => by simp [h s (List.mem_append_left _ hs)]
      have hrest := ih [] fun r hr => h r (List.mem_append_right queue hr)
      simpa [waitFor, hnone] using hrest
    | brokenOff => exact ⟨fun hnot => absurd List.mem_cons_self hnot, fun _ => rfl⟩

end Course

/-! ### The subscription -/

namespace PreparedFeed

variable {f : PreparedFeed} {edgeId : String} {channels : List String} {course : List Moment}

/-- The feed after a wait: it has been opened once more and closed once more. -/
def after (f : PreparedFeed) (edgeId : String) (channels : List String) : PreparedFeed :=
  { f with
    opened := f.opened + 1, closed := f.closed + 1
    requested := f.requested ++ [(edgeId, channels)] }

/-- What has become of a feed, whether it was done or has failed. -/
def feedAfter {α : Type} : EStateM.Result WaitError PreparedFeed α → PreparedFeed
  | .ok _ f => f
  | .error _ f => f

/-- **A subscription ends with what is done in it.** -/
theorem awaitAmid_eq (accepts : Sample → Bool) :
    awaitAmid course edgeId channels accepts f =
      match waitFor accepts [] course with
      | .ok found => .ok found (f.after edgeId channels)
      | .error why => .error why (f.after edgeId channels) := by
  rw [awaitAmid]
  cases waitFor accepts [] course <;> rfl

/-- The course of prepared samples is in time. -/
theorem samples_course (h : f.isInterrupted = false) :
    Moment.samples f.course = f.samples ∧ Moment.InTime f.course := by
  have hcourse : f.course = f.samples.map .came ++ [.turn] := by
    rw [course, h]
    rfl
  rw [hcourse]
  induction f.samples with
  | nil => exact ⟨rfl, trivial⟩
  | cons s samples ih => exact ⟨congrArg (s :: ·) ih.1, by simp, ih.2⟩

/-- **A wait for prepared samples** finds the first that is accepted, if it is not broken off. -/
theorem await_eq (accepts : Sample → Bool) (h : f.isInterrupted = false) :
    await edgeId channels accepts f = .ok (f.samples.find? accepts) (f.after edgeId channels) := by
  obtain ⟨hsamples, htime⟩ := samples_course h
  have hfind := waitFor_eq_find? accepts htime (Or.inl rfl)
  rw [List.nil_append, hsamples] at hfind
  show awaitAmid f.course edgeId channels accepts f = _
  rw [awaitAmid_eq, hfind]

end PreparedFeed

/-! ### Questions -/

namespace LiveQuestion

variable {q : LiveQuestion} {p : Sample → Prop} {f : PreparedFeed} {edgeId : String}
  {course : List Moment} {s : Sample}

/-- Without a feed or a device, nobody is asked. -/
theorem ask_nobody {m : Type → Type} [Monad m] (q : LiveQuestion)
    {await : Option (String → List String → (Sample → Bool) → m (Option Sample))}
    {edgeId? : Option String} (h : await = none ∨ edgeId? = none ∨ edgeId? = some "") :
    q.ask await edgeId? = pure .unavailable := by
  rcases h with rfl | rfl | rfl
  · rfl
  · cases await <;> rfl
  · cases await <;> rfl

/-- Puts a question to a feed amid a course. -/
def askAmid (q : LiveQuestion) (course : List Moment) (edgeId : String) : PreparedM LiveAnswer :=
  q.ask (some (PreparedFeed.awaitAmid course)) (some edgeId)

theorem askAmid_eq (hid : edgeId ≠ "") :
    q.askAmid course edgeId f =
      match waitFor q.accepts [] course with
      | .ok (some s) => .ok (.sample s) (f.after edgeId q.channels)
      | .ok none => .ok .timeout (f.after edgeId q.channels)
      | .error why => .error why (f.after edgeId q.channels) := by
  have hbeq : (edgeId == "") = false := beq_eq_false_iff_ne.mpr hid
  simp only [askAmid, ask, hbeq, Bool.false_eq_true, if_false, bind, EStateM.bind,
    PreparedFeed.awaitAmid_eq]
  rcases waitFor q.accepts [] course with why | _ | s <;> rfl

theorem feedAfter_askAmid (hid : edgeId ≠ "") (q : LiveQuestion) (course : List Moment)
    (f : PreparedFeed) :
    PreparedFeed.feedAfter (q.askAmid course edgeId f) = f.after edgeId q.channels := by
  rw [askAmid_eq hid]
  rcases waitFor q.accepts [] course with why | _ | s <;> rfl

theorem askAmid_of_isFirst (hid : edgeId ≠ "") (haccepts : ∀ s, q.accepts s = true ↔ p s)
    (htime : Moment.InTime course) (hs : IsFirst p (Moment.samples course) s) :
    q.askAmid course edgeId f = .ok (.sample s) (f.after edgeId q.channels) := by
  rw [isFirst_iff_find? haccepts] at hs
  rw [askAmid_eq hid, waitFor_eq_find? q.accepts htime (Or.inl rfl), List.nil_append, hs]

theorem askAmid_of_rejected (hid : edgeId ≠ "") (haccepts : ∀ s, q.accepts s = true ↔ p s)
    (h : ∀ s ∈ Moment.samples course, ¬p s) :
    (.brokenOff ∉ course →
        q.askAmid course edgeId f = .ok .timeout (f.after edgeId q.channels)) ∧
      (.brokenOff ∈ course →
        q.askAmid course edgeId f = .error .interrupted (f.after edgeId q.channels)) := by
  have hrejected := waitFor_of_rejected q.accepts [] course
    fun s hs => Bool.eq_false_iff.mpr fun htrue => h s hs ((haccepts s).mp htrue)
  constructor
  · intro hnot
    rw [askAmid_eq hid, hrejected.1 hnot]
  · intro hmem
    rw [askAmid_eq hid, hrejected.2 hmem]

/-- In time, there is an answer, and it is a sample if any of those that come is acceptable. -/
theorem exists_askAmid (hid : edgeId ≠ "") (haccepts : ∀ s, q.accepts s = true ↔ p s)
    (htime : Moment.InTime course) :
    ∃ a, q.askAmid course edgeId f = .ok a (f.after edgeId q.channels) ∧
      (∀ s, a = .sample s → s ∈ Moment.samples course ∧ p s) ∧
      ((∃ s, a = .sample s) ↔ ∃ s ∈ Moment.samples course, p s) := by
  rw [askAmid_eq hid, waitFor_eq_find? q.accepts htime (Or.inl rfl), List.nil_append]
  cases hfind : (Moment.samples course).find? q.accepts with
  | some s =>
    have hmem := List.mem_of_find?_eq_some hfind
    have hs := (haccepts s).mp (List.find?_some hfind)
    refine ⟨.sample s, rfl, ?_, iff_of_true ⟨s, rfl⟩ ⟨s, hmem, hs⟩⟩
    rintro s' ⟨⟩
    exact ⟨hmem, hs⟩
  | none =>
    refine ⟨.timeout, rfl, nofun, iff_of_false nofun ?_⟩
    rintro ⟨s, hmem, hs⟩
    exact List.find?_eq_none.mp hfind s hmem ((haccepts s).mpr hs)

end LiveQuestion

/-! ### The two questions -/

namespace Sample

variable {s : Sample} {t m : Int} {x y : Binary64} {serial : Option String}

/-- A sample has both counts. -/
structure HasCounts (s : Sample) (t m : Int) : Prop where
  towers : (s.value towersChannel).CountsAs t
  modules : (s.value modulesChannel).CountsAs m

/-- A sample has both voltages. -/
structure HasVoltages (s : Sample) (x y : Binary64) : Prop where
  greatest : (s.value maxVoltageChannel).ReadsAs x
  least : (s.value minVoltageChannel).ReadsAs y

/-- **The serial number of the inverter** in a sample: the text of the reported value. There is
none if the value is absent, nothing or empty. -/
inductive HasSerial (s : Sample) : Option String → Prop where
  | missing (h : s.value inverterChannel = .null ∨ s.value inverterChannel = .str "") :
      HasSerial s none
  | shown {text : String} (hnull : s.value inverterChannel ≠ .null)
      (hempty : s.value inverterChannel ≠ .str "")
      (htext : (s.value inverterChannel).display? = some text) : HasSerial s (some text)

theorem hasCounts_iff : hasCounts s = true ↔ ∃ t m, HasCounts s t m := by
  simp only [hasCounts, Bool.and_eq_true, Option.isSome_iff_exists, Json.countReading?_eq_some_iff]
  constructor
  · rintro ⟨⟨t, ht⟩, m, hm⟩
    exact ⟨t, m, ht, hm⟩
  · rintro ⟨t, m, ht, hm⟩
    exact ⟨⟨t, ht⟩, m, hm⟩

theorem hasVoltages_iff : hasVoltages s = true ↔ ∃ x y, HasVoltages s x y := by
  simp only [hasVoltages, Bool.and_eq_true, Option.isSome_iff_exists, Json.reading?_eq_some_iff]
  constructor
  · rintro ⟨⟨x, hx⟩, y, hy⟩
    exact ⟨x, y, hx, hy⟩
  · rintro ⟨x, y, hx, hy⟩
    exact ⟨⟨x, hx⟩, y, hy⟩

theorem inverter_of_hasSerial (h : HasSerial s serial) : inverter s = .ok serial := by
  rw [inverter]
  cases h with
  | missing h =>
    rcases h with h | h
    · rw [h]
    · rw [h]
      rfl
  | @shown text hnull hempty htext =>
    split
    · next h => exact absurd h hnull
    · next h => exact absurd h hempty
    · rw [Json.display, htext]
      rfl

/-- A value that can be written down gives a serial number or none. -/
theorem exists_hasSerial (h : (s.value inverterChannel).IsWritable) :
    ∃ serial, HasSerial s serial := by
  by_cases hmissing : s.value inverterChannel = .null ∨ s.value inverterChannel = .str ""
  · exact ⟨none, .missing hmissing⟩
  · rw [not_or] at hmissing
    obtain ⟨text, htext⟩ := Json.exists_display h
    exact ⟨some text, .shown hmissing.1 hmissing.2 htext⟩

end Sample

namespace LiveAnswer

variable {settings : Settings} {s : Sample} {t m : Int} {x y : Binary64} {serial : Option String}

theorem toDefaults_sample (hcounts : Sample.HasCounts s t m) (hserial : Sample.HasSerial s serial) :
    (sample s).toDefaults settings = .ok ⟨t, m, serial, .live⟩ := by
  rw [toDefaults, Sample.inverter_of_hasSerial hserial,
    Json.countReading?_eq_some_iff.mpr hcounts.towers,
    Json.countReading?_eq_some_iff.mpr hcounts.modules]
  rfl

theorem toMetrics_sample {c : CellMetrics} (hvoltages : s.HasVoltages x y)
    (hsource : c.source = .live) (hvoltage : c.voltage = some (x.sub y))
    (htemperature : c.temperature =
      (s.value maxTemperatureChannel).difference? (s.value minTemperatureChannel)) :
    (sample s).toMetrics = c := by
  have hdifference : (s.value maxVoltageChannel).difference? (s.value minVoltageChannel) =
      some (x.sub y) := by
    rw [Json.difference?, Json.reading?_eq_some_iff.mpr hvoltages.greatest,
      Json.reading?_eq_some_iff.mpr hvoltages.least]
    rfl
  rw [toMetrics, hdifference, ← hvoltage, ← htemperature, ← hsource]

theorem source_toMetrics {a : LiveAnswer} : a.toMetrics.source = .live ↔ ∃ s, a = .sample s := by
  cases a with
  | sample s => exact iff_of_true rfl ⟨s, rfl⟩
  | unavailable | timeout => exact iff_of_false nofun nofun

theorem source_toDefaults {a : LiveAnswer} {d : SerialNumberDefaults}
    (h : a.toDefaults settings = .ok d) : d.source = .live ↔ ∃ s, a = .sample s := by
  cases a with
  | sample s =>
    obtain ⟨serial, -, h⟩ := exists_of_bind_eq_ok h
    obtain rfl := Except.ok.inj h
    exact iff_of_true rfl ⟨s, rfl⟩
  | unavailable | timeout =>
    obtain rfl := Except.ok.inj h
    exact iff_of_false nofun nofun

end LiveAnswer

namespace PreparedFeed

variable {f : PreparedFeed} {edgeId : String} {course : List Moment}

/-- **What becomes of a question** that is put to a feed amid a course. Some samples are acceptable,
some results follow from a sample, and another result stands for no answer in time. -/
structure Answered {α : Type} (result : EStateM.Result WaitError PreparedFeed α)
    (after : PreparedFeed) (course : List Moment) (acceptable : Sample → Prop)
    (follows : Sample → α → Prop) (other : α) : Prop where
  /-- The feed is left as it should be in every case. -/
  books : feedAfter result = after
  /-- If all samples are looked at in time, the result follows from the first acceptable one. -/
  inTime : Moment.InTime course → ∀ s a, IsFirst acceptable (Moment.samples course) s →
    follows s a → result = .ok a after
  /-- If none is acceptable, time runs out. -/
  timeout : (∀ s ∈ Moment.samples course, ¬acceptable s) → .brokenOff ∉ course →
    result = .ok other after
  /-- If the wait is broken off before that, nothing results. -/
  interrupted : (∀ s ∈ Moment.samples course, ¬acceptable s) → .brokenOff ∈ course →
    result = .error .interrupted after

section Reading

variable {α : Type} {q : LiveQuestion} {p : Sample → Prop} {read : LiveAnswer → α}

/-- A question that is put to a feed, and what is read from the answer. -/
def resultOf (q : LiveQuestion) (read : LiveAnswer → α) (course : List Moment) (edgeId : String) :
    PreparedM α := do
  return read (← q.askAmid course edgeId)

theorem resultOf_of_ok {a : LiveAnswer} {g : PreparedFeed}
    (h : q.askAmid course edgeId f = .ok a g) :
    resultOf q read course edgeId f = .ok (read a) g := by
  show EStateM.bind _ _ f = _
  rw [EStateM.bind, h]
  rfl

theorem resultOf_of_error {why : WaitError} {g : PreparedFeed}
    (h : q.askAmid course edgeId f = .error why g) :
    resultOf q read course edgeId f = .error why g := by
  show EStateM.bind _ _ f = _
  rw [EStateM.bind, h]

theorem answered_resultOf (hid : edgeId ≠ "") (haccepts : ∀ s, q.accepts s = true ↔ p s)
    {follows : Sample → α → Prop} (hread : ∀ s a, follows s a → read (.sample s) = a) :
    Answered (resultOf q read course edgeId f) (f.after edgeId q.channels) course p follows
      (read .timeout) := by
  constructor
  case books =>
    rw [← LiveQuestion.feedAfter_askAmid hid q course f]
    cases hask : q.askAmid course edgeId f with
    | ok a g => rw [resultOf_of_ok hask, feedAfter, feedAfter]
    | error why g => rw [resultOf_of_error hask, feedAfter, feedAfter]
  case inTime =>
    intro htime s a hs hfollows
    rw [resultOf_of_ok (LiveQuestion.askAmid_of_isFirst hid haccepts htime hs), hread s a hfollows]
  case timeout =>
    intro h hnot
    exact resultOf_of_ok ((LiveQuestion.askAmid_of_rejected hid haccepts h).1 hnot)
  case interrupted =>
    intro h hmem
    exact resultOf_of_error ((LiveQuestion.askAmid_of_rejected hid haccepts h).2 hmem)

end Reading

/-- **There are counts** if all samples are looked at in time, and each has a serial number that can
be written down. -/
theorem exists_resolveDefaults (settings : Settings) (f : PreparedFeed) (hid : edgeId ≠ "")
    (htime : Moment.InTime course)
    (hserials : ∀ s ∈ Moment.samples course, (s.value inverterChannel).IsWritable) :
    ∃ d g, settings.resolveDefaults (some (awaitAmid course)) (some edgeId) f = .ok (.ok d) g := by
  obtain ⟨a, hask, hfound, -⟩ := LiveQuestion.exists_askAmid (f := f) (q := .counts)
    (p := fun s => ∃ t m, s.HasCounts t m) hid (fun s => Sample.hasCounts_iff) htime
  have hcounts : settings.resolveDefaults (some (awaitAmid course)) (some edgeId) f =
      .ok (a.toDefaults settings) _ := resultOf_of_ok hask
  rw [hcounts]
  cases a with
  | sample s =>
    obtain ⟨hmem, t, m, hs⟩ := hfound s rfl
    obtain ⟨serial, hserial⟩ := Sample.exists_hasSerial (hserials s hmem)
    exact ⟨_, _, congrArg₂ _ (LiveAnswer.toDefaults_sample hs hserial) rfl⟩
  | unavailable | timeout => exact ⟨_, _, rfl⟩

/-- **There are counts** if all samples are looked at in time, and are made of messages. -/
theorem exists_resolveDefaults_of_messages (settings : Settings) (f : PreparedFeed)
    (hid : edgeId ≠ "") (htime : Moment.InTime course)
    (hmessages : ∀ s ∈ Moment.samples course, s.IsReported) :
    ∃ d g, settings.resolveDefaults (some (awaitAmid course)) (some edgeId) f = .ok (.ok d) g :=
  exists_resolveDefaults settings f hid htime fun s hs => (hmessages s hs).isWritable_value _

/-- **A wait is bounded and leaves nothing behind.** For all settings, every feed and device and
every course of a wait:

* the counts are those of the first sample that has both, with the text of its serial number, if all
  samples are looked at in time, and those of the settings without a serial number if no sample has
  both; the cell metrics are those of the first sample that has both voltages, or a timeout;
* in every case, also if time runs out or the wait is broken off, the feed has been opened once more
  and closed once more;
* counts and cell metrics are said to be live exactly if there is such a sample, and there are
  counts if the serial numbers are values that can be written down, as all values of messages are
  (`Commissioning.PreparedFeed.exists_resolveDefaults_of_messages`);
* without a feed or a device the feed is left alone, and the counts are those of the settings. -/
theorem answered_once (settings : Settings) (f : PreparedFeed) {edgeId : String} (hid : edgeId ≠ "")
    (course : List Moment) :
    let counts := settings.resolveDefaults (some (awaitAmid course)) (some edgeId) f
    let cells := readCellMetrics (some (awaitAmid course)) (some edgeId) f
    let fallback : SerialNumberDefaults :=
      ⟨settings.defaultTowers, settings.defaultModules, none, .fallback⟩
    Answered counts (f.after edgeId LiveQuestion.counts.channels) course
        (fun s => ∃ t m, s.HasCounts t m)
        (fun s d => ∃ t m serial, s.HasCounts t m ∧ s.HasSerial serial ∧
          d = .ok ⟨t, m, serial, .live⟩)
        (.ok fallback) ∧
      Answered cells (f.after edgeId LiveQuestion.cells.channels) course
        (fun s => ∃ x y, s.HasVoltages x y)
        (fun s c => ∃ x y, s.HasVoltages x y ∧ c.source = .live ∧ c.voltage = some (x.sub y) ∧
          c.temperature = (s.value maxTemperatureChannel).difference?
            (s.value minTemperatureChannel))
        { source := .timeout } ∧
      (Moment.InTime course →
        (∀ d g, counts = .ok (.ok d) g →
          (d.source = .live ↔ ∃ s ∈ Moment.samples course, ∃ t m, s.HasCounts t m)) ∧
        ((∀ s ∈ Moment.samples course, (s.value inverterChannel).IsWritable) →
          ∃ d g, counts = .ok (.ok d) g) ∧
        ∃ c g, cells = .ok c g ∧
          (c.source = .live ↔ ∃ s ∈ Moment.samples course, ∃ x y, s.HasVoltages x y)) ∧
      ∀ await edgeId', await = none ∨ edgeId' = none ∨ edgeId' = some "" →
        settings.resolveDefaults (m := PreparedM) await edgeId' f = .ok (.ok fallback) f ∧
          readCellMetrics (m := PreparedM) await edgeId' f = .ok { source := .unavailable } f := by
  intro counts cells fallback
  refine ⟨?_, ?_, fun htime => ?_, ?_⟩
  · refine answered_resultOf hid (fun s => Sample.hasCounts_iff) ?_
    rintro s d ⟨t, m, serial, hcounts, hserial, rfl⟩
    exact LiveAnswer.toDefaults_sample hcounts hserial
  · refine answered_resultOf hid (fun s => Sample.hasVoltages_iff) ?_
    rintro s c ⟨x, y, hvoltages, hsource, hvoltage, htemperature⟩
    exact LiveAnswer.toMetrics_sample hvoltages hsource hvoltage htemperature
  · obtain ⟨a, hask, -, hlive⟩ := LiveQuestion.exists_askAmid (f := f) (q := .counts)
      (p := fun s => ∃ t m, s.HasCounts t m) hid (fun s => Sample.hasCounts_iff) htime
    obtain ⟨b, hask', -, hlive'⟩ := LiveQuestion.exists_askAmid (f := f) (q := .cells)
      (p := fun s => ∃ x y, s.HasVoltages x y) hid (fun s => Sample.hasVoltages_iff) htime
    have hcounts : counts = .ok (a.toDefaults settings) _ := resultOf_of_ok hask
    have hcells : cells = .ok b.toMetrics _ := resultOf_of_ok hask'
    refine ⟨?_, fun hserials => exists_resolveDefaults settings f hid htime hserials, ?_⟩
    · intro d g hd
      rw [hcounts] at hd
      obtain ⟨hd, -⟩ := EStateM.Result.ok.inj hd
      rw [LiveAnswer.source_toDefaults hd, hlive]
    · exact ⟨_, _, hcells, LiveAnswer.source_toMetrics.trans hlive'⟩
  · intro await edgeId' h
    rw [Settings.resolveDefaults, readCellMetrics, LiveQuestion.ask_nobody _ h,
      LiveQuestion.ask_nobody _ h]
    exact ⟨rfl, rfl⟩

/-- A sample with both counts. -/
def reported : Sample :=
  [(towersChannel, .int 2), (modulesChannel, .str " 7.9 "), (inverterChannel, .int 17)]

/-- Samples come without a count of towers first, and then others that have both counts. -/
def reporting : List Moment :=
  [.came [(towersChannel, .bool true), (modulesChannel, .int 5)], .turn,
   .came [(towersChannel, .str "NaN"), (modulesChannel, .int 5)], .came reported,
   .came [(towersChannel, .int 3), (modulesChannel, .int 9)], .turn]

theorem answered_once_reporting :
    "fems1" ≠ "" ∧
      Settings.resolveDefaults {} (some (awaitAmid reporting)) (some "fems1")
          { samples := [] } =
        .ok (.ok ⟨2, 7, some "17", .live⟩)
          { samples := [], opened := 1, closed := 1
            requested := [("fems1", [towersChannel, modulesChannel, inverterChannel])] } := by
  have hid : "fems1" ≠ "" := by decide
  have hcounts : reported.HasCounts 2 7 :=
    ⟨Json.countReading?_eq_some_iff.mp (by decide +kernel),
     Json.countReading?_eq_some_iff.mp (by decide +kernel)⟩
  have hfirst : IsFirst (fun s => ∃ t m, s.HasCounts t m) (Moment.samples reporting) reported := by
    refine ⟨[_, _], [_], rfl, ⟨2, 7, hcounts⟩, fun s hs => ?_⟩
    refine mt Sample.hasCounts_iff.mpr ?_
    rcases List.mem_pair.mp hs with rfl | rfl <;> decide +kernel
  refine ⟨hid, (answered_once {} { samples := [] } hid reporting).1.inTime ?_ _ _ hfirst ?_⟩
  · simp [reporting, Moment.InTime]
  · exact ⟨2, 7, some "17", hcounts, .shown nofun nofun rfl, rfl⟩

end PreparedFeed

end Commissioning
