import Commissioning.Proofs.Installation.Writable
import Commissioning.Proofs.Session.Navigator

/-!
# The course of a session

A navigator that is set up for a session is told to advance, to retreat and to jump, in any order
and for as long as one likes (`Commissioning.Navigator.Command`). It stands at an index from zero
to the number of views, and the last of these is the end: there the entries of the session are
gone, and its device has been handed off.

Where a command leads depends on the index alone (`Commissioning.Navigator.Command.target`). From
below the end one advances by one, retreats by one unless one stands at the first view, and jumps
to any view; from the end nothing leads anywhere. What is refused leaves the navigator as it is.

Three things have to stay together on the way: the index, the entries in the store, and the
hand-offs. `Commissioning.Navigator.Stands` says how, every command preserves it
(`Commissioning.Navigator.stands_after`), and so does every sequence of commands
(`Commissioning.Navigator.stands_afterAll`). The end is reached only by advancing from the last
view, and once it is reached no sequence of commands changes anything
(`Commissioning.Navigator.afterAll_of_finished`); so the device is handed off once and no more.
-/

namespace Commissioning

namespace Navigator

/-! ### Commands -/

/-- What a navigator can be told. -/
inductive Command where
  /-- On to the next view. -/
  | advance
  /-- Back to the view before. -/
  | retreat
  /-- To the view at an index. -/
  | jumpTo (index : Int)

/-- The move that is asked for. -/
def Command.move : Command → Move
  | .advance => Navigator.advance
  | .retreat => Navigator.retreat
  | .jumpTo index => Navigator.jumpTo index

/-- The answer to a command. -/
def answer (n : Navigator) (c : Command) : Except NavigationError NavigationResult :=
  match c.move n with
  | .ok result _ => .ok result
  | .error e _ => .error e

/-- The navigator after a command. -/
def after (n : Navigator) (c : Command) : Navigator :=
  match c.move n with
  | .ok _ n' => n'
  | .error _ n' => n'

/-- **The navigator after a sequence of commands.** -/
def afterAll (n : Navigator) (commands : List Command) : Navigator := commands.foldl after n

/-- **Where a command leads** from an index, given the number of views: nowhere if the move is not
made. -/
def Command.target (count : Nat) (index : Int) : Command → Option Int
  | .advance => if index < count then some (index + 1) else none
  | .retreat => if 0 < index ∧ index < count then some (index - 1) else none
  | .jumpTo goal => if index < count ∧ 0 ≤ goal ∧ goal < count then some goal else none

/-- The answer to a move that is made: at the end of the views it says where the installation is
shown. -/
def arrival (s : Session) (index : Int) : NavigationResult :=
  if index = s.viewCount then
    { accepted := true, viewIndex := index, finished := true, handOff := some (handOffOf s) }
  else madeTo index

/-- The answer to a command that leads nowhere. Only a jump is answered without an error, and with
one where the index is too long to be written into the reason. -/
def refusal (s : Session) : Command → Except NavigationError NavigationResult
  | .advance => .error (.outOfBounds (s.viewIndex + 1) s.viewCount)
  | .retreat => .error (.outOfBounds (s.viewIndex - 1) s.viewCount)
  | .jumpTo index => rejectedAt s index

theorem accepted_arrival (s : Session) (index : Int) : (arrival s index).accepted = true := by
  unfold arrival
  split <;> rfl

/-- What is refused is not accepted. -/
theorem accepted_of_refusal {s : Session} {c : Command} {result : NavigationResult}
    (h : refusal s c = .ok result) : result.accepted = false := by
  cases c with
  | advance => cases h
  | retreat => cases h
  | jumpTo index =>
    rw [refusal, rejectedAt] at h
    split at h
    · obtain rfl := Except.ok.inj h
      rfl
    · cases h

/-- Only advancing from the last view leads to the end. -/
theorem Command.eq_advance_of_target {count : Nat} {index : Int} {c : Command}
    (h : c.target count index = some (count : Int)) : c = .advance ∧ index + 1 = count := by
  cases c with
  | advance =>
    refine ⟨rfl, ?_⟩
    simp only [target] at h
    split at h
    · exact Option.some.inj h
    · cases h
  | retreat =>
    simp only [target] at h
    split at h
    · next hindex =>
      have := Option.some.inj h
      omega
    · cases h
  | jumpTo goal =>
    simp only [target] at h
    split at h
    · next hgoal =>
      have := Option.some.inj h
      omega
    · cases h

/-- A command leads to an index from zero to the end. -/
theorem Command.target_mem {count : Nat} {index goal : Int} (hindex : 0 ≤ index) {c : Command}
    (h : c.target count index = some goal) : 0 ≤ goal ∧ goal ≤ count ∧ index < count := by
  cases c <;>
  · simp only [target] at h
    split at h
    · have := Option.some.inj h
      omega
    · cases h

/-- From the end nothing leads anywhere. -/
theorem Command.target_of_end (count : Nat) (c : Command) : c.target count count = none := by
  cases c <;> simp [target]

/-! ### One command -/

/-- **How a navigator stands** that was set up for a session: the session in hand is that session
at some index, and below the end the entries keep it, while at the end they are gone and the device
has been handed off. -/
structure Stands (s : Session) (id : String) (n : Navigator) : Prop where
  id_eq : n.id = id
  session : n.session = s.movedTo n.session.viewIndex
  nonneg : 0 ≤ n.session.viewIndex
  le_end : n.session.viewIndex ≤ s.viewCount
  underWay : n.session.viewIndex < s.viewCount →
    n.session.Kept (n.store.entries id) ∧ n.handOffs = []
  finished : n.session.viewIndex = s.viewCount →
    n.store.entries id = [] ∧ n.handOffs = [handOffOf s]

variable {s : Session} {id : String} {n : Navigator} {c : Command}

theorem Stands.viewCount (h : Stands s id n) : n.session.viewCount = s.viewCount := by
  rw [h.session, Session.viewCount_movedTo]

theorem Stands.sound (h : Stands s id n) (hs : s.Sound)
    (hlt : n.session.viewIndex < s.viewCount) : n.session.Sound := by
  rw [h.session]
  exact hs.movedTo h.nonneg hlt

theorem answer_of_ok {result : NavigationResult} {n' : Navigator} (h : c.move n = .ok result n') :
    n.answer c = .ok result ∧ n.after c = n' := by
  rw [answer, after, h]
  exact ⟨rfl, rfl⟩

theorem answer_of_error {e : NavigationError} {n' : Navigator} (h : c.move n = .error e n') :
    n.answer c = .error e ∧ n.after c = n' := by
  rw [answer, after, h]
  exact ⟨rfl, rfl⟩

/-- Below the end, the session is written at any of its views. -/
theorem Stands.exists_save (h : Stands s id n) (hs : s.Sound)
    (hlt : n.session.viewIndex < s.viewCount) {goal : Int} (hgoal : 0 ≤ goal ∧ goal < s.viewCount) :
    ∃ store', (n.session.movedTo goal).save id n.store = .ok () store' ∧
      Stands s id { session := n.session.movedTo goal, id, store := store' } := by
  have hmoved : n.session.movedTo goal = s.movedTo goal := by
    rw [h.session]
    rfl
  have hsound : (n.session.movedTo goal).Sound := by
    rw [hmoved]
    exact hs.movedTo hgoal.1 hgoal.2
  obtain ⟨hkept, -⟩ := h.underWay hlt
  have hleft : (n.session.movedTo goal).edge = none → (n.store.entries id).get? edgeKey = none := by
    intro hedge
    rw [hkept.edge, show n.session.edge = none from hedge]
    rfl
  obtain ⟨store', hsave, hkept', -⟩ := Session.save_of_sound hsound hleft
  exact ⟨store', hsave,
    { id_eq := rfl
      session := hmoved
      nonneg := hgoal.1
      le_end := Int.le_of_lt hgoal.2
      underWay := fun _ => ⟨hkept', rfl⟩
      finished := fun hend => absurd hend (Int.ne_of_lt hgoal.2) }⟩

/-- **A command that leads somewhere** is answered with the index it leads to, and there the
navigator stands. -/
theorem Stands.moves (h : Stands s id n) (hs : s.Sound) {goal : Int}
    (hgoal : c.target s.viewCount n.session.viewIndex = some goal) :
    n.answer c = .ok (arrival s goal) ∧ (n.after c).session.viewIndex = goal ∧
      Stands s id (n.after c) := by
  obtain ⟨hnonneg, hle, hlt⟩ := Command.target_mem h.nonneg hgoal
  have hsound := h.sound hs hlt
  have hcount := h.viewCount
  obtain ⟨-, hnone⟩ := h.underWay hlt
  have hedge : handOffOf n.session = handOffOf s := by
    rw [h.session]
    rfl
  obtain ⟨current, id, store, handOffs⟩ := n
  obtain rfl := h.id_eq
  obtain rfl : handOffs = [] := hnone
  dsimp only at hlt hsound hcount hedge hgoal
  -- Whichever command it is, at a view the session is written, and at the end it is removed.
  by_cases hend : goal = s.viewCount
  · obtain ⟨rfl, hlast⟩ := Command.eq_advance_of_target (hend ▸ hgoal)
    have hmove : Command.advance.move { session := current, id, store } = _ :=
      advance_of_eq hsound (hlast.trans (congrArg Nat.cast hcount.symm))
    obtain ⟨hanswer, hafter⟩ := answer_of_ok hmove
    have harrival : finishedAt current = arrival s goal := by
      rw [arrival, if_pos hend, finishedAt, hedge, hlast, hend]
    rw [hanswer, hafter, harrival]
    refine ⟨rfl, hlast.trans hend.symm, ?_⟩
    exact
      { id_eq := rfl
        session := by
          rw [show current = _ from h.session]
          rfl
        nonneg := Int.le_of_lt (Int.lt_of_le_of_lt h.nonneg (Int.lt_succ current.viewIndex))
        le_end := Int.le_of_eq hlast
        underWay := fun hlt' => absurd hlast (Int.ne_of_lt hlt')
        finished := fun _ => ⟨by rw [SessionStore.entries_clear, if_pos rfl], by rw [hedge]⟩ }
  · have hview : 0 ≤ goal ∧ goal < s.viewCount := by omega
    obtain ⟨store', hsave, hstands⟩ := h.exists_save hs hlt hview
    have harrival : arrival s goal = madeTo goal := if_neg hend
    have hmove : c.move { session := current, id, store } =
        .ok (madeTo goal) { session := current.movedTo goal, id, store := store' } := by
      cases c with
      | advance =>
        obtain rfl : current.viewIndex + 1 = goal := by simpa [Command.target, hlt] using hgoal
        exact advance_of_lt hsound (by omega) hsave
      | retreat =>
        obtain ⟨⟨hpos, -⟩, rfl⟩ : (0 < current.viewIndex ∧ current.viewIndex < s.viewCount) ∧
          current.viewIndex - 1 = goal := by simpa [Command.target] using hgoal
        exact retreat_of_pos hsound hpos hsave
      | jumpTo index =>
        obtain ⟨-, rfl⟩ : (current.viewIndex < s.viewCount ∧ 0 ≤ index ∧ index < s.viewCount) ∧
          index = goal := by simpa [Command.target] using hgoal
        exact jumpTo_of_mem hsound (by omega) hsave
    obtain ⟨hanswer, hafter⟩ := answer_of_ok hmove
    rw [hanswer, hafter, harrival]
    exact ⟨rfl, rfl, hstands⟩

/-- **A command that leads nowhere** is refused and changes nothing. -/
theorem Stands.refuses (h : Stands s id n)
    (hnone : c.target s.viewCount n.session.viewIndex = none) :
    n.answer c = refusal n.session c ∧ n.after c = n := by
  have hcount : s.viewCount ≤ 17 := Session.viewCount_le s.system
  have hcount' := h.viewCount
  have hnonneg := h.nonneg
  have hle := h.le_end
  have hfinished : n.session.isFinished = true ↔ n.session.viewIndex = s.viewCount := by
    rw [Session.isFinished, beq_iff_eq, hcount']
  cases c with
  | advance =>
    have hend : n.session.viewIndex = s.viewCount := by
      simp only [Command.target, ite_eq_right_iff, reduceCtorEq, imp_false] at hnone
      omega
    refine answer_of_error ?_
    rw [Command.move, advance_apply, if_pos (hfinished.mpr hend)]
    exact refuse_apply (by omega) n
  | retreat =>
    have hstay : n.session.viewIndex ≤ 0 ∨ n.session.viewIndex = s.viewCount := by
      simp only [Command.target, ite_eq_right_iff, reduceCtorEq, imp_false] at hnone
      omega
    refine answer_of_error ?_
    rw [Command.move, retreat_apply, if_pos (hstay.imp_right hfinished.mpr)]
    exact refuse_apply (by omega) n
  | jumpTo index =>
    have hstay : ¬(¬n.session.isFinished = true ∧ 0 ≤ index ∧ index < n.session.viewCount) := by
      simp only [Command.target, ite_eq_right_iff, reduceCtorEq, imp_false] at hnone
      rw [hfinished, hcount']
      omega
    have hmove : (Command.jumpTo index).move n = _ :=
      (jumpTo_apply n index).trans ((if_neg hstay).trans (reject_apply index n))
    rw [refusal]
    rcases hrejected : rejectedAt n.session index with e | result
    · rw [hrejected] at hmove
      exact answer_of_error hmove
    · rw [hrejected] at hmove
      exact answer_of_ok hmove

/-- **Every command preserves how a navigator stands.** -/
theorem stands_after (hs : s.Sound) (h : Stands s id n) (c : Command) :
    Stands s id (n.after c) := by
  rcases hgoal : c.target s.viewCount n.session.viewIndex with _ | goal
  · rw [(h.refuses hgoal).2]
    exact h
  · exact (h.moves hs hgoal).2.2

/-! ### Sequences of commands -/

/-- So does every sequence of commands. -/
theorem stands_afterAll (hs : s.Sound) (h : Stands s id n) (commands : List Command) :
    Stands s id (n.afterAll commands) := by
  induction commands generalizing n with
  | nil => exact h
  | cons c commands ih => exact ih (stands_after hs h c)

/-- **At the end nothing changes any more.** -/
theorem afterAll_of_finished (h : Stands s id n)
    (hend : n.session.viewIndex = s.viewCount) (commands : List Command) :
    n.afterAll commands = n := by
  induction commands with
  | nil => rfl
  | cons c commands ih =>
    have hnone : c.target s.viewCount n.session.viewIndex = none := by
      rw [hend]
      exact c.target_of_end _
    show (n.after c).afterAll commands = n
    rw [(h.refuses hnone).2]
    exact ih

/-- What has been saved can be written. -/
theorem isWritable_of_save {store store' : SessionStore} (hsave : s.save id store = .ok () store') :
    s.data.IsWritable := by
  by_cases hwritable : s.data.IsWritable
  · exact hwritable
  · rw [Session.save_of_not_writable hwritable] at hsave
    cases hsave

theorem isWhole_of_save (hrest : Session.Sound { s with edge := none })
    {store store' : SessionStore} (hsave : s.save id store = .ok () store') :
    ∀ e ∈ s.edge, e.IsWhole := by
  intro e he
  rcases ht : e.torn? with _ | t
  · exact ht
  · obtain ⟨rest, hsaved, -⟩ := Session.exists_written hrest store id
    rw [Session.save_of_torn he ht hsaved] at hsave
    cases hsave

/-- A navigator that is set up for a session that has been saved stands at its index. -/
theorem stands_start (hs : s.Sound) {store store' : SessionStore} (hempty : store.entries id = [])
    (hsave : s.save id store = .ok () store') :
    Stands s id { session := s, id, store := store' } := by
  have hleft : s.edge = none → (store.entries id).get? edgeKey = none := fun _ => by
    rw [hempty]
    rfl
  obtain ⟨saved, hsave', hkept, -⟩ := Session.save_of_sound hs hleft
  rw [hsave] at hsave'
  cases hsave'
  exact
    { id_eq := rfl
      session := rfl
      nonneg := hs.index_nonneg
      le_end := Int.le_of_lt hs.index_lt
      underWay := fun _ => ⟨hkept, rfl⟩
      finished := fun hend => absurd hend (Int.ne_of_lt hs.index_lt) }

/-- **The course of a session.** A navigator is set up for a session that has been saved where there
was nothing before, and has been told any commands. Then it stands at an index from zero to the end;
below the end the entries load as the session in hand, and nothing has been handed off; at the end
there are no entries, the device has been handed off once, and nothing changes any more. The next
command is accepted exactly if it leads somewhere, and otherwise refused without a change; and only
advancing from the last view leads to the end. -/
theorem course_of_saved (s : Session) (id : String) (store store' : SessionStore)
    (hdata : ∃ channel j, Installation.intake channel j = .valid s.data)
    (hedge : ∀ e ∈ s.edge, ∃ j, Edge.intake j = .valid e)
    (hindex : 0 ≤ s.viewIndex ∧ s.viewIndex < s.viewCount) (hempty : store.entries id = [])
    (hsave : s.save id store = .ok () store') (commands : List Command) (c : Command) :
    let n := afterAll { session := s, id, store := store' } commands
    let index := n.session.viewIndex
    (0 ≤ index ∧ index ≤ s.viewCount ∧ n.session = s.movedTo index) ∧
    (index < s.viewCount →
      Session.load (n.store.entries id) = .ok n.session ∧ n.handOffs = []) ∧
    (index = s.viewCount →
      n.store.entries id = [] ∧ n.handOffs = [handOffOf s] ∧ ∀ more, n.afterAll more = n) ∧
    (∀ goal, c.target s.viewCount index = some goal →
      n.answer c = .ok (arrival s goal) ∧ (n.after c).session.viewIndex = goal) ∧
    (c.target s.viewCount index = none → n.answer c = refusal n.session c ∧ n.after c = n) ∧
    ((∃ result, n.answer c = .ok result ∧ result.accepted = true) ↔
      (c.target s.viewCount index).isSome) ∧
    ((n.after c).session.viewIndex = s.viewCount → index ≠ s.viewCount →
      c = .advance ∧ index + 1 = s.viewCount ∧ (n.after c).store.entries id = [] ∧
        (n.after c).handOffs = n.handOffs ++ [handOffOf s]) := by
  intro n index
  have hrest : Session.Sound { s with edge := none } :=
    { data := Installation.inBounds_iff_exists_intake.mpr hdata
      writable := isWritable_of_save (s := s) hsave
      edge := by rintro e ⟨⟩
      whole := by rintro e ⟨⟩
      index_nonneg := hindex.1
      index_lt := hindex.2 }
  have hs : s.Sound :=
    { hrest with
      edge := fun e he => Edge.inBounds_iff_exists_intake.mpr (hedge e he)
      whole := isWhole_of_save hrest hsave }
  have h : Stands s id n := stands_afterAll hs (stands_start hs hempty hsave) commands
  have hnext : Stands s id (n.after c) := stands_after hs h c
  refine ⟨⟨h.nonneg, h.le_end, h.session⟩, fun hlt => ?_, fun hend => ?_, fun goal hgoal => ?_,
    h.refuses, ?_, fun hend hbefore => ?_⟩
  · obtain ⟨hkept, hnone⟩ := h.underWay hlt
    exact ⟨Session.load_of_kept (h.sound hs hlt) hkept, hnone⟩
  · obtain ⟨hgone, honce⟩ := h.finished hend
    exact ⟨hgone, honce, afterAll_of_finished h hend⟩
  · obtain ⟨hanswer, hgoal', -⟩ := h.moves hs hgoal
    exact ⟨hanswer, hgoal'⟩
  · constructor
    · rintro ⟨result, hanswer, haccepted⟩
      rcases hgoal : c.target s.viewCount index with _ | goal
      · rw [(h.refuses hgoal).1] at hanswer
        rw [accepted_of_refusal hanswer] at haccepted
        cases haccepted
      · rfl
    · intro hsome
      obtain ⟨goal, hgoal⟩ := Option.isSome_iff_exists.mp hsome
      exact ⟨arrival s goal, (h.moves hs hgoal).1, accepted_arrival s goal⟩
  · rcases hgoal : c.target s.viewCount index with _ | goal
    · rw [(h.refuses hgoal).2] at hend
      exact absurd hend hbefore
    · have hgoal' : goal = s.viewCount := (h.moves hs hgoal).2.1.symm.trans hend
      obtain ⟨hc, hlast⟩ := Command.eq_advance_of_target (hgoal' ▸ hgoal)
      obtain ⟨hgone, honce⟩ := hnext.finished hend
      obtain ⟨-, hnone⟩ := h.underWay (Int.lt_iff_le_and_ne.mpr ⟨h.le_end, hbefore⟩)
      exact ⟨hc, hlast, hgone, by rw [honce, hnone]; rfl⟩

/-- A session at its last view but one. -/
def lateSession : Session := { system := .home20, viewIndex := 15, edge := some { id := "edge0" } }

/-- On to the last view, a jump to where there is none, and then the end. -/
theorem course_of_saved_late : ∃ store', lateSession.save "a" (.empty .memory) = .ok () store' ∧
    let n := afterAll { session := lateSession, id := "a", store := store' }
      [.advance, .jumpTo 99]
    Session.load (n.store.entries "a") = .ok (lateSession.movedTo 16) ∧
      (n.after .advance).store.entries "a" = [] ∧
      (n.after .advance).handOffs = [⟨some "edge0", "/device/edge0/live"⟩] := by
  have hdata : Installation.InBounds {} := ⟨by decide, by decide⟩
  have hedge : ∀ e ∈ lateSession.edge, e.InBounds := by
    rintro _ ⟨⟩
    exact ⟨by decide, by decide⟩
  have hs : lateSession.Sound :=
    ⟨hdata, Installation.isWritable_default, hedge, by rintro _ ⟨⟩; rfl, by decide, by decide⟩
  have hleft : lateSession.edge = none →
      ((SessionStore.empty .memory).entries "a").get? edgeKey = none := fun _ => rfl
  obtain ⟨store', hsave, -⟩ := Session.save_of_sound hs hleft
  refine ⟨store', hsave, ?_⟩
  intro n
  have hstart := stands_start hs rfl hsave
  have hlt : Command.advance.target lateSession.viewCount lateSession.viewIndex = some 16 := by
    decide
  obtain ⟨-, hindex, hstands⟩ := hstart.moves hs hlt
  have hjump : n = after { session := lateSession, id := "a", store := store' } .advance :=
    (hstands.refuses (c := .jumpTo 99) (by rw [hindex]; decide)).2
  have hindex' : n.session.viewIndex = 16 := by rw [hjump, hindex]
  obtain ⟨⟨-, -, hsession⟩, hload, -, hmoves, -, -, hends⟩ := course_of_saved lateSession "a"
    (.empty .memory) store' (Installation.inBounds_iff_exists_intake.mp hdata)
    (fun e he => Edge.inBounds_iff_exists_intake.mp (hedge e he)) (by decide) rfl hsave
    [.advance, .jumpTo 99] .advance
  obtain ⟨hloads, hnone⟩ := hload (by rw [hindex']; decide)
  obtain ⟨-, hlast⟩ := hmoves 17 (by rw [hindex']; decide)
  obtain ⟨-, -, hgone, honce⟩ := hends hlast (by rw [hindex']; decide)
  refine ⟨?_, hgone, ?_⟩
  · rw [hloads, hsession, hindex']
  · rw [honce, hnone]
    decide

end Navigator

end Commissioning
