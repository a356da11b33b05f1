import LiveMarkup.Proofs.Controller.Run

/-!
# The life of a controller

Between operations a controller is unstarted, ready, failed or at its end. Its phase decides which
views it has and which reports it has made: `Sound` ties them together, every operation keeps it
(`Sound.perform`), and `run_lifecycle` reads off what it says of a whole run.
-/

set_option autoImplicit false

namespace LiveMarkup

namespace Controller

/-- Phase, views and reports of a session agree. -/
structure Sound (c : Controller) (session : Session) : Prop where
  notLoading : session.lifecycle ≠ .loadingExternals
  notInitializing : session.lifecycle ≠ .initializing
  states : session.states.isSome = true ↔
    session.lifecycle = .ready ∧ c.component.pattern.usesStates = true
  data : session.data.isSome = true ↔
    session.lifecycle = .ready ∧ c.component.pattern.usesData = true ∧
      c.component.data.isSome = true
  rules : session.rules.isSome = true ↔
    session.lifecycle = .ready ∧ c.component.pattern.usesRules = true
  /-- A ready session has said so once. -/
  ready : session.lifecycle = .ready → (session.reports "ready").length = 1
  /-- Before that nothing was said of it. -/
  unready : session.lifecycle ≠ .ready → session.lifecycle ≠ .destroyed →
    session.reports "ready" = []
  /-- At the end it may have been said. -/
  readyOnce : (session.reports "ready").length ≤ 1
  /-- The end is not reported before it. -/
  alive : session.lifecycle ≠ .destroyed → session.reports "destroy" = []
  /-- The report of the end is the last one. -/
  ended : session.lifecycle = .destroyed → session.Closed ∧
    ∃ earlier last, session.notifications = earlier ++ [last] ∧
      ∀ report ∈ earlier, report.name ≠ "destroy"

/-! ## Steps -/

theorem start_sound (c : Controller) (doc : Document) : c.Sound (.start c.component doc) where
  notLoading := by simp [Session.start]
  notInitializing := by simp [Session.start]
  states := by simp [Session.start]
  data := by simp [Session.start]
  rules := by simp [Session.start]
  ready := by simp [Session.start]
  unready := by simp [Session.start, Session.reports]
  readyOnce := by simp [Session.start, Session.reports]
  alive := by simp [Session.start, Session.reports]
  ended := by simp [Session.start]

/-- A session stays sound while its phase and its views stay and reports of its work are added. -/
theorem Sound.work {c : Controller} {before after : Session} (sound : c.Sound before)
    (alive : before.lifecycle ≠ .destroyed)
    (lifecycle : after.lifecycle = before.lifecycle)
    (states : after.states.isSome = before.states.isSome)
    (data : after.data.isSome = before.data.isSome)
    (rules : after.rules.isSome = before.rules.isSome)
    (ready : after.reports "ready" = before.reports "ready")
    (destroy : after.reports "destroy" = before.reports "destroy") : c.Sound after where
  notLoading := by rw [lifecycle]; exact sound.notLoading
  notInitializing := by rw [lifecycle]; exact sound.notInitializing
  states := by rw [lifecycle, states]; exact sound.states
  data := by rw [lifecycle, data]; exact sound.data
  rules := by rw [lifecycle, rules]; exact sound.rules
  ready := by rw [lifecycle, ready]; exact sound.ready
  unready := by rw [lifecycle, ready]; exact sound.unready
  readyOnce := by rw [ready]; exact sound.readyOnce
  alive := by rw [lifecycle, destroy]; exact sound.alive
  ended := fun ended => absurd (lifecycle ▸ ended) alive

/-- Acts report neither that a session is ready nor its end. -/
theorem Acts.reports_eq {c : Controller} {before after : Session} (acts : Acts c before after)
    {name : String} (other : name ∉ "state-change" :: workReports) :
    after.reports name = before.reports name := by
  obtain ⟨added, appended, names⟩ := acts.notifications
  refine Session.reports_append appended ?_
  intro report member same
  exact other (same ▸ names report member)

theorem Sound.acts {c : Controller} {before after : Session} (sound : c.Sound before)
    (alive : before.lifecycle ≠ .destroyed) (acts : Acts c before after) : c.Sound after :=
  sound.work alive acts.kept.lifecycle acts.kept.states acts.kept.data
    (by rw [acts.kept.rules]) (acts.reports_eq (by decide)) (acts.reports_eq (by decide))

/-- A session that comes no further than its start has the views and the reports it had before. -/
theorem Sound.halted {c : Controller} {before after : Session} (sound : c.Sound before)
    (unstarted : before.lifecycle = .uninitialized)
    (halted : after.lifecycle = .uninitialized ∨ ∃ failure, after.lifecycle = .failed failure)
    (states : after.states = before.states) (data : after.data = before.data)
    (rules : after.rules = before.rules)
    (ready : after.reports "ready" = before.reports "ready")
    (destroy : after.reports "destroy" = before.reports "destroy") : c.Sound after := by
  have phase : after.lifecycle ≠ .loadingExternals ∧ after.lifecycle ≠ .initializing ∧
      after.lifecycle ≠ .ready ∧ after.lifecycle ≠ .destroyed := by
    rcases halted with h | ⟨failure, h⟩ <;> simp [h]
  obtain ⟨notLoading, notInitializing, unready, alive⟩ := phase
  have silent : before.reports "ready" = [] :=
    sound.unready (by simp [unstarted]) (by simp [unstarted])
  refine
    { notLoading := notLoading
      notInitializing := notInitializing
      states := ?_
      data := ?_
      rules := ?_
      ready := fun h => absurd h unready
      unready := fun _ _ => ready.trans silent
      readyOnce := by simp [ready, silent]
      alive := fun _ => destroy.trans (sound.alive (by simp [unstarted]))
      ended := fun h => absurd h alive }
  · rw [states, sound.states]
    simp [unstarted, unready]
  · rw [data, sound.data]
    simp [unstarted, unready]
  · rw [rules, sound.rules]
    simp [unstarted, unready]

theorem equip_states (c : Controller) (session : Session) :
    (c.equip session).states.isSome = c.component.pattern.usesStates := by
  cases uses : c.component.pattern.usesStates <;> simp [equip, uses]

theorem equip_data (c : Controller) (session : Session) :
    (c.equip session).data.isSome =
      (c.component.pattern.usesData && c.component.data.isSome) := by
  cases uses : c.component.pattern.usesData <;> simp [equip, uses, Component.source?]

theorem equip_rules (c : Controller) (session : Session) :
    (c.equip session).rules.isSome = c.component.pattern.usesRules := by
  cases uses : c.component.pattern.usesRules <;> simp [equip, uses]

/-- A session that says that it is ready, with the views of its pattern, is sound. -/
theorem Sound.readied {c : Controller} {before after : Session} {detail : Json}
    (unready : before.reports "ready" = []) (alive : before.reports "destroy" = [])
    (phase : after.lifecycle = .ready)
    (appended : after.notifications = before.notifications ++ [⟨"ready", detail⟩])
    (states : after.states.isSome = c.component.pattern.usesStates)
    (data : after.data.isSome = (c.component.pattern.usesData && c.component.data.isSome))
    (rules : after.rules.isSome = c.component.pattern.usesRules) : c.Sound after := by
  have said : after.reports "ready" = [⟨"ready", detail⟩] := by
    have both := Session.reports_concat appended
    rw [unready] at both
    exact both
  exact
    { notLoading := by simp [phase]
      notInitializing := by simp [phase]
      states := by simp only [states, phase, true_and]
      data := by simp only [data, phase, true_and, Bool.and_eq_true]
      rules := by simp only [rules, phase, true_and]
      ready := fun _ => by rw [said, List.length_singleton]
      unready := fun h => absurd phase h
      readyOnce := by simp [said]
      alive := fun _ => (Session.reports_append appended (by simp)).trans alive
      ended := fun h => absurd (phase.symm.trans h) (by simp) }

theorem Sound.launched {c : Controller} {before after : Session} (sound : c.Sound before)
    (unstarted : before.lifecycle = .uninitialized) (launched : Launched c before after) :
    c.Sound after := by
  cases launched with
  | containerMissing absent =>
    exact sound.halted unstarted (.inr ⟨_, rfl⟩) rfl rfl rfl rfl rfl
  | unloaded requests error =>
    exact sound.halted unstarted (.inr ⟨_, rfl⟩) rfl rfl rfl
      (Session.reports_append rfl (by simp)) (Session.reports_append rfl (by simp))
  | cancelled requests calls =>
    exact sound.halted unstarted (.inl rfl) rfl rfl rfl rfl rfl
  | @ready requests later calls done worked acts =>
    -- Nothing was said before the start, and no act says that the session is ready or at its end.
    have unready : worked.reports "ready" = [] :=
      (acts.reports_eq (by decide)).trans
        (sound.unready (by simp [unstarted]) (by simp [unstarted]))
    have alive : worked.reports "destroy" = [] :=
      (acts.reports_eq (by decide)).trans (sound.alive (by simp [unstarted]))
    exact Sound.readied unready alive rfl rfl (acts.kept.states.trans (c.equip_states _))
      (acts.kept.data.trans (c.equip_data _))
      ((congrArg Option.isSome acts.kept.rules).trans (c.equip_rules _))

theorem Sound.closed {c : Controller} {before after : Session} (sound : c.Sound before)
    (alive : before.lifecycle ≠ .destroyed) (closed : after.Closed) {last : Notification}
    (notifications : after.notifications = before.notifications ++ [last])
    (other : last.name ≠ "ready") : c.Sound after := by
  have ready : after.reports "ready" = before.reports "ready" :=
    Session.reports_append notifications (by simpa using other)
  have unreported := sound.alive alive
  rw [Session.reports, List.filter_eq_nil_iff] at unreported
  exact
    { notLoading := by simp [closed.lifecycle]
      notInitializing := by simp [closed.lifecycle]
      states := by simp [closed.lifecycle, closed.states]
      data := by simp [closed.lifecycle, closed.data]
      rules := by simp [closed.lifecycle, closed.rules]
      ready := fun h => absurd (closed.lifecycle.symm.trans h) (by simp)
      unready := fun _ h => absurd closed.lifecycle h
      readyOnce := by rw [ready]; exact sound.readyOnce
      alive := fun h => absurd closed.lifecycle h
      ended := fun _ => ⟨closed, before.notifications, last, notifications, by
        simpa using unreported⟩ }

theorem Sound.with_document {c : Controller} {session : Session} (sound : c.Sound session)
    (document : Document) : c.Sound { session with document := document } :=
  ⟨sound.notLoading, sound.notInitializing, sound.states, sound.data, sound.rules, sound.ready,
    sound.unready, sound.readyOnce, sound.alive, fun ended =>
      ⟨(sound.ended ended).1.with_document document, (sound.ended ended).2⟩⟩

theorem Sound.perform {c : Controller} {session : Session} (sound : c.Sound session)
    (operation : Operation) : c.Sound (c.perform session operation) := by
  -- A session that has ended is treated apart: an act might report something behind its end.
  by_cases ended : session.lifecycle = .destroyed
  · obtain ⟨document, heq⟩ := c.perform_of_closed (sound.ended ended).1 operation
    rw [heq]
    exact sound.with_document document
  · have performed := c.performed session operation
    generalize c.perform session operation = after at performed ⊢
    cases performed with
    | work acts => exact sound.acts ended acts
    | init unstarted launched => exact sound.launched unstarted launched
    | register accepted =>
      exact sound.work ended rfl rfl rfl rfl
        (Session.reports_append rfl (by simp)) (Session.reports_append rfl (by simp))
    | destroy calls alive =>
      exact sound.closed ended ⟨rfl, rfl, rfl, rfl, rfl⟩ rfl (by simp)

/-- The start of a session takes it from its first phase, and its end from every other one; no other
operation changes the phase. -/
theorem perform_lifecycle (c : Controller) {session : Session} {operation : Operation}
    (changed : (c.perform session operation).lifecycle ≠ session.lifecycle) :
    operation = .init ∧ session.lifecycle = .uninitialized ∨
      operation = .destroy ∧ session.lifecycle ≠ .destroyed := by
  have performed := c.performed session operation
  generalize c.perform session operation = after at performed changed
  cases performed with
  | work acts => exact absurd acts.kept.lifecycle changed
  | init unstarted launched => exact .inl ⟨rfl, unstarted⟩
  | register accepted => exact absurd rfl changed
  | destroy calls alive => exact .inr ⟨rfl, alive⟩

/-- Only an operation that makes a session ready says so. -/
theorem perform_reports_ready (c : Controller) {session : Session} {operation : Operation}
    (unready : (c.perform session operation).lifecycle ≠ .ready) :
    (c.perform session operation).reports "ready" = session.reports "ready" := by
  have performed := c.performed session operation
  generalize c.perform session operation = after at performed unready ⊢
  cases performed with
  | work acts => exact acts.reports_eq (by decide)
  | init unstarted launched =>
    cases launched with
    | containerMissing absent => rfl
    | unloaded requests error => exact Session.reports_append rfl (by simp)
    | cancelled requests calls => rfl
    | ready acts => exact absurd rfl unready
  | register accepted => exact Session.reports_append rfl (by simp)
  | destroy calls alive => exact Session.reports_append rfl (by simp)

/-! ## Runs -/

theorem run_sound (c : Controller) (doc : Document) (operations : List Operation) :
    c.Sound (c.run (.start c.component doc) operations) :=
  run_invariant (fun _ operation sound => sound.perform operation) (c.start_sound doc) operations

/-- It was said that a session is ready exactly when it was ready after some of the operations. -/
theorem run_reports_ready_iff (c : Controller) (doc : Document) (operations : List Operation) :
    (c.run (.start c.component doc) operations).reports "ready" ≠ [] ↔
      ∃ earlier, earlier <+: operations ∧
        (c.run (.start c.component doc) earlier).lifecycle = .ready := by
  induction operations using List.reverseRecOn with
  | nil => simp [run, Session.start, Session.reports]
  | append_singleton operations operation ih =>
    -- The last operation either makes the session ready, which it says, or leaves what was said.
    have sound := c.run_sound doc (operations ++ [operation])
    by_cases ready : (c.run (.start c.component doc) (operations ++ [operation])).lifecycle = .ready
    · have said :
          (c.run (.start c.component doc) (operations ++ [operation])).reports "ready" ≠ [] := by
        intro silent
        have once := sound.ready ready
        simp [silent] at once
      exact ⟨fun _ => ⟨_, List.prefix_rfl, ready⟩, fun _ => said⟩
    · have same : (c.run (.start c.component doc) (operations ++ [operation])).reports "ready" =
          (c.run (.start c.component doc) operations).reports "ready" := by
        rw [run_snoc] at ready ⊢
        exact c.perform_reports_ready ready
      rw [same, ih]
      constructor
      · rintro ⟨earlier, before, reached⟩
        exact ⟨earlier, before.trans (List.prefix_append _ _), reached⟩
      · rintro ⟨earlier, before, reached⟩
        rcases List.prefix_concat_iff.mp before with rfl | before
        · exact absurd reached ready
        · exact ⟨earlier, before, reached⟩

/-- Nothing is reported behind the report of the end. -/
theorem Sound.destroy_last {c : Controller} {session : Session} (sound : c.Sound session)
    {before after : List Notification} {report : Notification}
    (split : session.notifications = before ++ report :: after) (last : report.name = "destroy") :
    after = [] := by
  by_cases ended : session.lifecycle = .destroyed
  · obtain ⟨-, earlier, final, whole, others⟩ := sound.ended ended
    -- With something behind it the report would be one of those before the last one.
    by_contra more
    obtain ⟨shorter, tail, rfl⟩ := (List.eq_nil_or_concat after).resolve_left more
    rw [whole, List.concat_eq_append, ← List.cons_append, ← List.append_assoc] at split
    have hearlier := (List.append_inj' split rfl).1
    exact others report (by simp [hearlier]) last
  · have silent := sound.alive ended
    rw [Session.reports, List.filter_eq_nil_iff] at silent
    exact absurd last (by simpa using silent report (by simp [split]))

/-- After any operations a session is in one of four phases, which only a start and an end change.
Its views are there exactly while it is ready and its pattern uses them; at most once it was said to
be ready, and exactly when it was; and nothing is reported behind the report of its end. -/
theorem run_lifecycle (c : Controller) (doc : Document) (operations : List Operation) :
    let session := c.run (.start c.component doc) operations
    (session.lifecycle = .uninitialized ∨ session.lifecycle = .ready ∨
        (∃ failure, session.lifecycle = .failed failure) ∨ session.lifecycle = .destroyed) ∧
      (∀ operation, (c.perform session operation).lifecycle ≠ session.lifecycle →
        operation = .init ∧ session.lifecycle = .uninitialized ∨
          operation = .destroy ∧ session.lifecycle ≠ .destroyed) ∧
      (session.states.isSome = true ↔
        session.lifecycle = .ready ∧ c.component.pattern.usesStates = true) ∧
      (session.data.isSome = true ↔
        session.lifecycle = .ready ∧ c.component.pattern.usesData = true ∧
          c.component.data.isSome = true) ∧
      (session.rules.isSome = true ↔
        session.lifecycle = .ready ∧ c.component.pattern.usesRules = true) ∧
      (session.reports "ready").length ≤ 1 ∧
      (session.reports "ready" ≠ [] ↔ ∃ earlier, earlier <+: operations ∧
        (c.run (.start c.component doc) earlier).lifecycle = .ready) ∧
      ∀ before report after, session.notifications = before ++ report :: after →
        report.name = "destroy" → after = [] := by
  intro session
  have sound : c.Sound session := c.run_sound doc operations
  refine ⟨?_, fun _ => c.perform_lifecycle, sound.states, sound.data, sound.rules, sound.readyOnce,
    c.run_reports_ready_iff doc operations, fun _ _ _ => sound.destroy_last⟩
  cases phase : session.lifecycle with
  | uninitialized => exact .inl rfl
  | loadingExternals => exact absurd phase sound.notLoading
  | initializing => exact absurd phase sound.notInitializing
  | ready => exact .inr (.inl rfl)
  | failed failure => exact .inr (.inr (.inl ⟨failure, rfl⟩))
  | destroyed => exact .inr (.inr (.inr rfl))

end Controller

end LiveMarkup
