import LiveMarkup.Proofs.Controller.Lifecycle
import LiveMarkup.Proofs.StringMap

/-!
# Objects handed to a controller

A controller keeps objects under the names that its component reserves, and tears them down at its end.
What stands under a name before the end is the object registered there last (`Registry.Holds`), since
registering is the only operation that changes the registry (`perform_registry`). At the end each of
these objects that can be torn down is, once and in the order of the names, and the registry is closed
for good (`run_externals`).
-/

set_option autoImplicit false

namespace LiveMarkup

/-! ## What a registry holds -/

/-- The object that operations registered last under a name. -/
def LastRegistered (operations : List Operation) (name : String) (object : ExternalObject) : Prop :=
  ∃ earlier later, operations = earlier ++ .register name object :: later ∧
    ∀ other, .register name other ∉ later

theorem lastRegistered_iff {operations : List Operation} {name : String} {object : ExternalObject} :
    LastRegistered operations name object ↔ LastOf operations (.register name object)
      fun operation => ∃ other, operation = .register name other := by
  refine exists₂_congr fun earlier later => and_congr_right fun _ => ⟨?_, ?_⟩
  · rintro unchanged _ member ⟨other, rfl⟩
    exact unchanged other member
  · exact fun unchanged other member => unchanged _ member ⟨other, rfl⟩

theorem not_lastRegistered_nil (name : String) (object : ExternalObject) :
    ¬LastRegistered [] name object :=
  fun last => not_lastOf_nil (lastRegistered_iff.mp last)

/-- The last operation counts if it registers something under the name, and else those before it. -/
theorem lastRegistered_concat {operations : List Operation} {operation : Operation} {name : String}
    {object : ExternalObject} :
    LastRegistered (operations ++ [operation]) name object ↔
      operation = .register name object ∨
        (∀ other, operation ≠ .register name other) ∧ LastRegistered operations name object := by
  rw [lastRegistered_iff, lastOf_concat, not_exists, ← lastRegistered_iff]

namespace Registry

/-- An open registry of these names, with what operations registered last under each of them. -/
structure Holds (registry : Registry) (names : List String) (operations : List Operation) : Prop where
  uncleared : registry.cleared = false
  reserved : ∀ name, registry.isReserved name = true ↔ name ∈ names
  held : ∀ name object, registry.slots.find? name = some (some object) ↔
    name ∈ names ∧ LastRegistered operations name object

variable {registry : Registry} {names : List String} {operations : List Operation}

theorem holds_reserve (names : List String) : (reserve names).Holds names [] where
  uncleared := rfl
  reserved := by
    intro name
    rw [isReserved, StringMap.contains_eq_isSome, reserve, StringMap.find?_ofList_map]
    split <;> simp_all
  held := by
    intro name object
    rw [reserve, StringMap.find?_ofList_map]
    refine iff_of_false ?_ fun listed => not_lastRegistered_nil name object listed.2
    split <;> simp

/-- Operations that register nothing leave what is held. -/
theorem Holds.unregistered (holds : registry.Holds names operations) {operation : Operation}
    (others : ∀ name object, operation ≠ .register name object) :
    registry.Holds names (operations ++ [operation]) where
  uncleared := holds.uncleared
  reserved := holds.reserved
  held := by
    intro name object
    rw [holds.held, lastRegistered_concat, or_iff_right (others name object),
      and_iff_right (others name)]

/-- An object takes the place of the one before it. -/
theorem Holds.insert (holds : registry.Holds names operations) {name : String}
    (known : name ∈ names) (object : ExternalObject) :
    { registry with slots := registry.slots.insert name (some object) }.Holds names
      (operations ++ [Operation.register name object]) where
  uncleared := holds.uncleared
  reserved := by
    intro other
    rw [← holds.reserved, isReserved, isReserved, StringMap.contains_eq_isSome,
      StringMap.contains_eq_isSome, StringMap.find?_insert]
    split
    · rename_i same
      have bound := (holds.reserved name).mpr known
      rw [isReserved, StringMap.contains_eq_isSome] at bound
      rw [same, bound]
      rfl
    · rfl
  held := by
    intro other given
    rw [StringMap.find?_insert, lastRegistered_concat]
    split
    · rename_i same
      subst same
      simp [known]
    · rename_i differs
      have elsewhere : ∀ last, Operation.register name object ≠ .register other last := by
        intro last same
        exact differs (Operation.register.inj same).1.symm
      rw [holds.held, or_iff_right (elsewhere given), and_iff_right elsewhere]

/-- Nothing is held under a name that is not reserved. -/
theorem Holds.refused (holds : registry.Holds names operations) {name : String}
    (unknown : name ∉ names) (object : ExternalObject) :
    registry.Holds names (operations ++ [Operation.register name object]) where
  uncleared := holds.uncleared
  reserved := holds.reserved
  held := by
    intro other given
    rw [holds.held, lastRegistered_concat]
    refine and_congr_right fun known => ?_
    have elsewhere : ∀ last, Operation.register name object ≠ .register other last := by
      intro last same
      exact unknown ((Operation.register.inj same).1 ▸ known)
    rw [or_iff_right (elsewhere given), and_iff_right elsewhere]

/-! ## What is torn down -/

/-- What can be torn down is listed in the order of the names. -/
theorem destroyable_sorted (registry : Registry) :
    registry.destroyable.Pairwise fun torn next => torn.1 < next.1 := by
  refine List.Pairwise.filterMap _ ?_ registry.slots.sorted
  rintro ⟨name, slot⟩ ⟨other, more⟩ before torn htorn next hnext
  obtain ⟨object, -, rfl⟩ := Option.map_eq_some_iff.mp htorn
  obtain ⟨object', -, rfl⟩ := Option.map_eq_some_iff.mp hnext
  exact before

theorem mem_destroyable_iff {name : String} {object : ExternalObject} :
    (name, object) ∈ registry.destroyable ↔
      registry.slots.find? name = some (some object) ∧ object.destroyable = true := by
  rw [← StringMap.mem_entries_iff, destroyable, List.mem_filterMap]
  constructor
  · rintro ⟨⟨other, slot⟩, member, found⟩
    obtain ⟨given, kept, same⟩ := Option.map_eq_some_iff.mp found
    obtain ⟨rfl, rfl⟩ := Prod.mk.inj same
    obtain ⟨rfl, able⟩ := Option.filter_eq_some_iff.mp kept
    exact ⟨member, able⟩
  · rintro ⟨member, able⟩
    exact ⟨_, member, by simp [able]⟩

end Registry

/-! ## Operations -/

namespace Controller

theorem register_of_reserved {session : Session} (uncleared : session.registry.cleared = false)
    {name : String} (known : session.registry.isReserved name = true) (object : ExternalObject) :
    register session name object =
      ({ session with
          registry :=
            { session.registry with slots := session.registry.slots.insert name (some object) } }.notify
          "external-registered" [("name", .string name)],
        .ok ()) := by
  rw [Registry.isReserved] at known
  simp [register, Registry.register, uncleared, known]

theorem register_of_not_reserved {session : Session} (uncleared : session.registry.cleared = false)
    {name : String} (unknown : session.registry.isReserved name = false) (object : ExternalObject) :
    register session name object = (session, .error .notReserved) := by
  rw [Registry.isReserved] at unknown
  simp [register, Registry.register, uncleared, unknown]

/-- Only registering changes the registry before the end, and nothing is torn down before it. -/
theorem perform_registry (c : Controller) (session : Session) {operation : Operation}
    (registers : ∀ name object, operation ≠ .register name object) (ends : operation ≠ .destroy) :
    (c.perform session operation).registry = session.registry ∧
      (c.perform session operation).tornDown = session.tornDown := by
  have performed := c.performed session operation
  generalize c.perform session operation = after at performed ⊢
  cases performed with
  | work acts => exact ⟨acts.kept.registry, acts.kept.tornDown⟩
  | init unstarted launched =>
    cases launched with
    | containerMissing absent => exact ⟨rfl, rfl⟩
    | unloaded requests error => exact ⟨rfl, rfl⟩
    | cancelled requests calls => exact ⟨rfl, rfl⟩
    | ready acts => exact ⟨acts.kept.registry, acts.kept.tornDown⟩
  | register accepted => exact absurd rfl (registers _ _)
  | destroy calls alive => exact absurd rfl ends

/-- A session before its end: its registry holds what was registered, and nothing is torn down. -/
structure Open (c : Controller) (session : Session) (operations : List Operation) : Prop where
  alive : session.lifecycle ≠ .destroyed
  holds : session.registry.Holds c.component.options.externalRegistry operations
  untouched : session.tornDown = []

theorem Open.perform {c : Controller} {session : Session} {operations : List Operation}
    (opened : c.Open session operations) {operation : Operation} (ends : operation ≠ .destroy) :
    c.Open (c.perform session operation) (operations ++ [operation]) := by
  have alive : (c.perform session operation).lifecycle ≠ .destroyed := by
    have performed := c.performed session operation
    generalize c.perform session operation = after at performed ⊢
    cases performed with
    | work acts => exact acts.kept.lifecycle ▸ opened.alive
    | init unstarted launched => cases launched <;> simp [Session.notify]
    | register accepted => exact opened.alive
    | destroy calls alive => exact absurd rfl ends
  -- What is registered depends on the name; any other operation leaves the registry as it is.
  by_cases registers : ∃ name object, operation = .register name object
  · obtain ⟨name, object, rfl⟩ := registers
    have holds := opened.holds
    by_cases known : name ∈ c.component.options.externalRegistry
    · rw [Controller.perform, register_of_reserved holds.uncleared ((holds.reserved name).mpr known)]
      exact ⟨opened.alive, holds.insert known object, opened.untouched⟩
    · have unknown := Bool.eq_false_iff.mpr ((holds.reserved name).not.mpr known)
      rw [Controller.perform, register_of_not_reserved holds.uncleared unknown]
      exact ⟨opened.alive, holds.refused known object, opened.untouched⟩
  · have others : ∀ name object, operation ≠ .register name object := by simpa using registers
    obtain ⟨registry, tornDown⟩ := c.perform_registry session others ends
    exact ⟨alive, registry ▸ opened.holds.unregistered others, tornDown.trans opened.untouched⟩

theorem run_open (c : Controller) (doc : Document) {operations : List Operation}
    (unended : Operation.destroy ∉ operations) :
    c.Open (c.run (.start c.component doc) operations) operations := by
  induction operations using List.reverseRecOn with
  | nil => exact ⟨by simp [run, Session.start], Registry.holds_reserve _, rfl⟩
  | append_singleton earlier operation ih =>
    rw [List.mem_append, not_or, List.mem_singleton] at unended
    rw [run_snoc]
    exact (ih unended.1).perform (Ne.symm unended.2)

/-! ## The end -/

/-- The end of a session closes it, tears down what can be torn down and reports how much that is. -/
theorem destroy_facts (c : Controller) {session : Session} (alive : session.lifecycle ≠ .destroyed) :
    (c.destroy session).2 = session.registry.destroyable.length ∧
      (c.destroy session).1.Closed ∧
      (c.destroy session).1.tornDown = session.tornDown ++ session.registry.destroyable ∧
      (c.destroy session).1.notifications = session.notifications ++
        [⟨"destroy", .object [("externals", Json.ofNat session.registry.destroyable.length)]⟩] := by
  simp only [destroy, if_neg alive]
  generalize hended : Session.notify _ _ _ = ended
  obtain ⟨calls, hcalls⟩ := c.callHook_eq ended .destroy []
  rw [hcalls, ← hended]
  exact ⟨trivial, ⟨rfl, rfl, rfl, rfl, rfl⟩, rfl, rfl⟩

/-- Whatever is done after the end of a session, only its document changes. -/
theorem run_of_closed (c : Controller) {session : Session} (closed : session.Closed)
    (operations : List Operation) :
    ∃ document, c.run session operations = { session with document := document } := by
  have kept : ∀ after operation, (∃ document, after = { session with document := document }) →
      ∃ document, c.perform after operation = { session with document := document } := by
    rintro _ operation ⟨document, rfl⟩
    obtain ⟨changed, heq⟩ := c.perform_of_closed (closed.with_document document) operation
    exact ⟨changed, heq⟩
  exact run_invariant kept ⟨session.document, rfl⟩ operations

/-- Before the end of a session its reserved names are those of its component. An object is registered
under one of them, which is reported, and refused under any other name, which changes nothing. The end
tears down, once and in the order of their names, those objects registered last under a name that can be
torn down, and no others; their number is its answer and its report. Whatever is done afterwards, no
name is reserved, nothing can be registered, nothing else is torn down or reported, and another end
changes nothing. -/
theorem run_externals (c : Controller) (doc : Document) (operations : List Operation)
    (unended : Operation.destroy ∉ operations) :
    let session := c.run (.start c.component doc) operations
    let names := c.component.options.externalRegistry
    (session.lifecycle ≠ .destroyed ∧ session.tornDown = [] ∧ session.reports "destroy" = []) ∧
      (∀ name, session.registry.isReserved name = true ↔ name ∈ names) ∧
      (∀ name object, name ∈ names → register session name object =
        ({ session with
            registry :=
              { session.registry with
                slots := session.registry.slots.insert name (some object) } }.notify
            "external-registered" [("name", .string name)],
          .ok ())) ∧
      (∀ name object, name ∉ names → register session name object = (session, .error .notReserved)) ∧
      ∃ torn : List (String × ExternalObject),
        torn.Pairwise (fun first next => first.1 < next.1) ∧
        (∀ name object, (name, object) ∈ torn ↔
          (name ∈ names ∧ LastRegistered operations name object) ∧ object.destroyable = true) ∧
        (c.destroy session).2 = torn.length ∧
        ∀ later, let ended := c.run (c.destroy session).1 later
          ended.lifecycle = .destroyed ∧ ended.tornDown = torn ∧
            ended.reports "destroy" =
              [⟨"destroy", .object [("externals", Json.ofNat torn.length)]⟩] ∧
            (∀ name, ended.registry.isReserved name = false) ∧
            (∀ name object, register ended name object = (ended, .error .cleared)) ∧
            c.destroy ended = (ended, 0) := by
  intro session names
  have opened : c.Open session operations := c.run_open doc unended
  have holds := opened.holds
  have silent : session.reports "destroy" = [] := (c.run_sound doc operations).alive opened.alive
  refine ⟨⟨opened.alive, opened.untouched, silent⟩, holds.reserved, ?_, ?_,
    session.registry.destroyable, session.registry.destroyable_sorted, ?_, ?_⟩
  · intro name object known
    exact register_of_reserved holds.uncleared ((holds.reserved name).mpr known) object
  · intro name object unknown
    exact register_of_not_reserved holds.uncleared
      (Bool.eq_false_iff.mpr ((holds.reserved name).not.mpr unknown)) object
  · intro name object
    rw [Registry.mem_destroyable_iff, holds.held]
  · obtain ⟨count, closed, tornDown, notifications⟩ := c.destroy_facts opened.alive
    refine ⟨count, fun later => ?_⟩
    obtain ⟨document, heq⟩ := c.run_of_closed closed later
    have still := closed.with_document document
    have told : (c.destroy session).1.reports "destroy" = _ := Session.reports_concat notifications
    rw [silent] at told
    simp only [heq]
    refine ⟨still.lifecycle, ?_, told, ?_, register_of_registry_eq_closed still.registry,
      c.destroy_of_destroyed still.lifecycle⟩
    · rw [tornDown, opened.untouched, List.nil_append]
    · intro name
      rw [still.registry]
      rfl

/-- A component that reserves three names, one of them twice. -/
def widgets : Controller where
  component :=
    { id := "widgets"
      inputs := ⟨some [.ofId "list" "List"], none, none⟩
      options := { Options.standard with externalRegistry := ["map", "chart", "log", "map"] }
      accepted := by decide +kernel }
  hooks := .none
  loader := .preloaded
  stateFilters := .empty

/-- Objects are registered before and after the start, twice under one name, and once under a name that
is not reserved. -/
def widgetOperations : List Operation :=
  [.register "map" ⟨1, true⟩, .init, .register "chart" ⟨2, false⟩, .register "map" ⟨3, true⟩,
    .register "clock" ⟨4, true⟩, .register "log" ⟨5, true⟩]

/-- At the end of `widgetOperations` two objects are torn down, and never another one. -/
theorem run_externals_widgets :
    let session := widgets.run (.start widgets.component (.scaffold widgets.component)) widgetOperations
    Operation.destroy ∉ widgetOperations ∧ (widgets.destroy session).2 = 2 ∧
      ∀ later, (widgets.run (widgets.destroy session).1 later).tornDown =
        [("log", ⟨5, true⟩), ("map", ⟨3, true⟩)] := by
  intro session
  have unended : Operation.destroy ∉ widgetOperations := by simp [widgetOperations]
  obtain ⟨-, -, -, -, torn, -, -, count, ended⟩ :=
    widgets.run_externals (.scaffold widgets.component) widgetOperations unended
  have listed : torn = [("log", ⟨5, true⟩), ("map", ⟨3, true⟩)] := by
    have first := (ended []).2.1
    exact first.symm.trans (by decide +kernel)
  rw [listed] at count ended
  exact ⟨unended, count, fun later => (ended later).2.1⟩

end Controller

end LiveMarkup
