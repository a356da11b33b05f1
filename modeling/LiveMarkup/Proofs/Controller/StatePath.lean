import LiveMarkup.Proofs.Controller.Run
import Mathlib.Data.List.Chain

/-!
# The path through the states

States are entered by their users, by rules, while a component starts, and by filters that leave no
record, in the middle of another change or not. In whatever order this happens, the changes reported
form one path from the initial state to the active one. `Path` is that shape, an act adds at most
one entry to it (`Tracked.act`), and `run_stateChanges` says it of whole runs.
-/

set_option autoImplicit false

namespace LiveMarkup

/-- What is reported of an entered state. -/
def Entry.detail (entry : Entry) : Json :=
  .object (Controller.switchContext entry.previous entry.next)

namespace Controller

/-- A state is available when the first one declared under its id is enabled and its condition, if
it has one, holds. -/
theorem available_iff {c : Controller} {doc : Document} {id : String} :
    c.available doc id = true ↔ ∃ state, c.state? id = some state ∧ state.disabled = false ∧
      ∀ condition, state.condition = some condition →
        condition.comparison.holds (doc.value condition.element) condition.expected = true := by
  unfold available
  rw [Option.any_eq_true]
  simp only [Bool.and_eq_true, Bool.not_eq_true', Option.all_eq_true_iff_get]
  constructor
  · rintro ⟨state, found, enabled, holds⟩
    exact ⟨state, found, enabled, fun condition h => by simpa [h] using holds⟩
  · rintro ⟨state, found, enabled, holds⟩
    exact ⟨state, found, enabled, fun h => holds _ (Option.some_get h).symm⟩

theorem mem_states_of_state? {c : Controller} {id : String} {state : State}
    (found : c.state? id = some state) : state ∈ c.component.states ∧ state.id = id :=
  ⟨List.mem_of_find?_eq_some found, by simpa using List.find?_some found⟩

/-- A component with states has an initial one. -/
theorem exists_initialState {component : Component} {state : State}
    (declared : state ∈ component.states) : ∃ initial, component.initialState = some initial := by
  obtain ⟨first, rest, states⟩ := List.exists_cons_of_ne_nil (List.ne_nil_of_mem declared)
  unfold Component.initialState State.initial?
  rw [states, List.head?_cons]
  cases (first :: rest).find? State.active with
  | none => exact ⟨first, rfl⟩
  | some active => exact ⟨active, rfl⟩

/-! ## Paths -/

/-- Entries one after another from the initial state on, and the state they lead to. -/
inductive Path (c : Controller) : List Entry → Option String → Prop where
  | start : Path c [] (c.component.initialState.map State.id)
  | enter {entries : List Entry} {entry : Entry} (path : Path c entries entry.previous)
      (moves : entry.previous ≠ some entry.next)
      (available : c.available entry.document entry.next = true) :
      Path c (entries ++ [entry]) (some entry.next)

theorem Path.end_eq {c : Controller} {entries : List Entry} {active : Option String}
    (path : c.Path entries active) :
    active = (entries.getLast?.map Entry.next).or (c.component.initialState.map State.id) := by
  cases path with
  | start => rfl
  | enter path moves available => simp

theorem Path.of_mem {c : Controller} {entries : List Entry} {active : Option String}
    (path : c.Path entries active) :
    ∀ entry ∈ entries, entry.previous ≠ some entry.next ∧
      c.available entry.document entry.next = true := by
  induction path with
  | start => simp
  | @enter entries entry path moves available ih =>
    intro member hmember
    rcases List.mem_append.mp hmember with h | h
    · exact ih member h
    · rw [List.mem_singleton.mp h]
      exact ⟨moves, available⟩

theorem Path.head {c : Controller} {entries : List Entry} {active : Option String}
    (path : c.Path entries active) :
    ∀ first ∈ entries.head?, first.previous = c.component.initialState.map State.id := by
  induction path with
  | start => simp
  | @enter entries entry path moves available ih =>
    intro first hfirst
    cases entries with
    | nil =>
      obtain rfl : entry = first := by simpa using hfirst
      simpa using path.end_eq
    | cons earliest rest => exact ih first (by simpa using hfirst)

theorem Path.isChain {c : Controller} {entries : List Entry} {active : Option String}
    (path : c.Path entries active) :
    entries.IsChain fun earlier later => later.previous = some earlier.next := by
  induction path with
  | start => exact .nil
  | @enter entries entry path moves available ih =>
    refine List.isChain_append.mpr ⟨ih, List.isChain_singleton _, ?_⟩
    intro last hlast next hnext
    obtain rfl : entry = next := by simpa using hnext
    rw [path.end_eq, Option.mem_def.mp hlast]
    rfl

/-! ## Sessions on a path -/

/-- The entries of a session are what it reported, and form a path to its active state. -/
structure Tracked (c : Controller) (session : Session) : Prop where
  reported : (session.reports "state-change").map Notification.detail =
    session.entries.map Entry.detail
  path : ∃ active, c.Path session.entries active ∧
    ∀ view, session.states = some view → view.active = active
  /-- No state was entered before the start. -/
  unstarted : session.lifecycle = .uninitialized → session.entries = [] ∧ session.states = none

/-- A session stays on its path while its states stay and no change of them is reported. -/
theorem Tracked.still {c : Controller} {before after : Session} (tracked : c.Tracked before)
    (entries : after.entries = before.entries)
    (states : after.states = before.states ∨ after.states = none)
    (reports : after.reports "state-change" = before.reports "state-change")
    (lifecycle : after.lifecycle = .uninitialized → before.lifecycle = .uninitialized) :
    c.Tracked after where
  reported := by rw [reports, entries]; exact tracked.reported
  path := by
    obtain ⟨active, path, agrees⟩ := tracked.path
    refine ⟨active, entries ▸ path, ?_⟩
    intro view present
    rcases states with same | none
    · exact agrees view (same.symm.trans present)
    · cases none.symm.trans present
  unstarted := by
    intro unstarted
    obtain ⟨empty, none⟩ := tracked.unstarted (lifecycle unstarted)
    refine ⟨entries.trans empty, ?_⟩
    rcases states with same | gone
    · exact same.trans none
    · exact gone

/-- Entering a state is the one act that makes the path longer. -/
theorem Tracked.act {c : Controller} {before after : Session} (tracked : c.Tracked before)
    (act : Act c before after) : c.Tracked after := by
  cases act with
  | call call => exact tracked.still rfl (.inl rfl) rfl id
  | report name detail work =>
    refine tracked.still rfl (.inl rfl) (Session.reports_append rfl ?_) id
    intro report member same
    rw [List.mem_singleton.mp member] at same
    exact absurd work (by rw [show name = "state-change" from same]; decide)
  | @enter view id states inactive available =>
    obtain ⟨active, path, agrees⟩ := tracked.path
    -- The state that is left is the one the path has led to, so the new entry goes on from there.
    obtain rfl : view.active = active := agrees view states
    obtain ⟨document, calls, entered⟩ := c.enter_eq before view.active id
    have reported := tracked.reported
    rw [Session.reports] at reported
    rw [entered]
    refine ⟨?_, ⟨some id, .enter path inactive available, ?_⟩, ?_⟩
    · simp only [Session.reports, List.filter_append, List.map_append, reported]
      rfl
    · intro entered present
      rw [← Option.some.inj present]
    · intro unstarted
      cases (tracked.unstarted unstarted).2.symm.trans states
  | filter filters data records => exact tracked.still rfl (.inl rfl) rfl id
  | turn page data records => exact tracked.still rfl (.inl rfl) rfl id
  | effect rules planned => exact tracked.still rfl (.inl rfl) rfl id
  | input element value => exact tracked.still rfl (.inl rfl) rfl id

theorem Tracked.acts {c : Controller} {before after : Session} (tracked : c.Tracked before)
    (acts : Acts c before after) : c.Tracked after := by
  induction acts with
  | refl => exact tracked
  | tail _ act ih => exact ih.act act

/-- A session is equipped with the states before any is entered. -/
theorem Tracked.equip {c : Controller} {before after : Session} (tracked : c.Tracked before)
    (unstarted : before.lifecycle = .uninitialized) (entries : after.entries = before.entries)
    (notifications : after.notifications = before.notifications)
    (started : after.lifecycle ≠ .uninitialized) : c.Tracked (c.equip after) where
  reported := by
    have reported := tracked.reported
    rw [Session.reports, ← notifications, ← entries] at reported
    exact reported
  path := by
    -- Before the first entry the path ends where it starts, in the initial state.
    have empty : (c.equip after).entries = [] := entries.trans (tracked.unstarted unstarted).1
    rw [empty]
    refine ⟨_, .start, ?_⟩
    intro view present
    cases uses : c.component.pattern.usesStates with
    | true =>
      simp only [Controller.equip, uses, if_true] at present
      rw [← Option.some.inj present]
    | false => simp [Controller.equip, uses] at present
  unstarted := fun h => absurd h started

theorem Tracked.launched {c : Controller} {before after : Session} (tracked : c.Tracked before)
    (unstarted : before.lifecycle = .uninitialized) (launched : Launched c before after) :
    c.Tracked after := by
  cases launched with
  | containerMissing absent => exact tracked.still rfl (.inl rfl) rfl (fun _ => unstarted)
  | unloaded requests error =>
    exact tracked.still rfl (.inl rfl) (Session.reports_append rfl (by simp)) (fun _ => unstarted)
  | cancelled requests calls => exact tracked.still rfl (.inl rfl) rfl (fun _ => unstarted)
  | @ready requests later calls done worked acts =>
    have equipped : c.Tracked (c.equip
        { before with requests := requests, calls := calls, lifecycle := .initializing }) :=
      tracked.equip unstarted rfl rfl (by simp)
    exact (equipped.acts acts).still rfl (.inl rfl) (Session.reports_append rfl (by simp)) (by simp)

theorem Tracked.perform {c : Controller} {session : Session} (tracked : c.Tracked session)
    (operation : Operation) : c.Tracked (c.perform session operation) := by
  have performed := c.performed session operation
  generalize c.perform session operation = after at performed ⊢
  cases performed with
  | work acts => exact tracked.acts acts
  | init unstarted launched => exact tracked.launched unstarted launched
  | register accepted =>
    exact tracked.still rfl (.inl rfl) (Session.reports_append rfl (by simp)) id
  | destroy calls alive =>
    exact tracked.still rfl (.inr rfl) (Session.reports_append rfl (by simp)) (by simp)

/-! ## Runs -/

theorem start_tracked (c : Controller) (doc : Document) :
    c.Tracked (.start c.component doc) where
  reported := rfl
  path := ⟨_, .start, fun view present => by cases present⟩
  unstarted := fun _ => ⟨rfl, rfl⟩

theorem run_tracked (c : Controller) (doc : Document) (operations : List Operation) :
    c.Tracked (c.run (.start c.component doc) operations) :=
  run_invariant (fun _ operation tracked => tracked.perform operation) (c.start_tracked doc)
    operations

/-- The changes of state that a run reports are the entries it made, one path: the first one leaves
the initial state, each later one leaves the state entered before it, each goes to another state,
declared and enabled, whose condition holds in the document it is entered in, and the last one leads
to the active state. -/
theorem run_stateChanges (c : Controller) (doc : Document) (operations : List Operation) :
    let session := c.run (.start c.component doc) operations
    (session.reports "state-change").map Notification.detail = session.entries.map Entry.detail ∧
      (∀ first ∈ session.entries.head?, ∃ initial, c.component.initialState = some initial ∧
        first.previous = some initial.id) ∧
      session.entries.IsChain (fun earlier later => later.previous = some earlier.next) ∧
      (∀ entry ∈ session.entries, entry.previous ≠ some entry.next ∧
        ∃ state ∈ c.component.states, state.id = entry.next ∧ state.disabled = false ∧
          ∀ condition, state.condition = some condition →
            condition.comparison.holds (entry.document.value condition.element)
              condition.expected = true) ∧
      (session.states.isSome = true → session.activeState =
        (session.entries.getLast?.map Entry.next).or (c.component.initialState.map State.id)) := by
  intro session
  obtain ⟨reported, ⟨active, path, agrees⟩, -⟩ := c.run_tracked doc operations
  have entered : ∀ entry ∈ session.entries, entry.previous ≠ some entry.next ∧
      ∃ state ∈ c.component.states, state.id = entry.next ∧ state.disabled = false ∧
        ∀ condition, state.condition = some condition →
          condition.comparison.holds (entry.document.value condition.element)
            condition.expected = true := by
    intro entry member
    obtain ⟨moves, available⟩ := path.of_mem entry member
    obtain ⟨state, found, enabled, holds⟩ := available_iff.mp available
    obtain ⟨declared, same⟩ := mem_states_of_state? found
    exact ⟨moves, state, declared, same, enabled, holds⟩
  refine ⟨reported, ?_, path.isChain, entered, ?_⟩
  · intro first hfirst
    -- A component without states has no initial one, but then no state could have been entered.
    obtain ⟨-, state, declared, -⟩ := entered first (List.mem_of_mem_head? hfirst)
    obtain ⟨initial, hinitial⟩ := exists_initialState declared
    refine ⟨initial, hinitial, ?_⟩
    rw [path.head first hfirst, hinitial]
    rfl
  · intro present
    obtain ⟨view, hview⟩ := Option.isSome_iff_exists.mp present
    rw [← path.end_eq, ← agrees view hview, Session.activeState, hview]
    rfl

end Controller

end LiveMarkup
