import LiveMarkup.Proofs.Controller.History
import LiveMarkup.Proofs.Controller.Lifecycle

/-!
# Starts that come to nothing

A start ends early in three ways: the container is missing, a required script does not load, or the first
hook refuses. Each of them is known from what the document, the loader and the hooks say, and leaves the
session as it was but for its phase and its logs (`init_of_absent`, `init_of_failsFirst`,
`init_of_vetoes`). A session that was refused can be started again, and then starts as a fresh one would
(`run_init_outcomes`).
-/

set_option autoImplicit false

namespace LiveMarkup

namespace Controller

/-! ## Scripts -/

/-- These scripts load one after another behind those asked for before. -/
def Loads (c : Controller) (asked scripts : List ExternalScript) : Prop :=
  ∀ earlier script later, scripts = earlier ++ script :: later →
    c.loader (asked ++ earlier) script = none

/-- Of these scripts, asked for behind others, the first one that does not load fails with this error. -/
def FailsFirst (c : Controller) (asked scripts : List ExternalScript) (error : LoadError) : Prop :=
  ∃ earlier script later, scripts = earlier ++ script :: later ∧ c.Loads asked earlier ∧
    c.loader (asked ++ earlier) script = some error

section Scripts

variable {c : Controller} {asked scripts : List ExternalScript} {last : ExternalScript}

theorem loads_concat : c.Loads asked (scripts ++ [last]) ↔
    c.Loads asked scripts ∧ c.loader (asked ++ scripts) last = none := by
  constructor
  · intro loads
    refine ⟨fun earlier script later split => loads earlier script (later ++ [last]) ?_,
      loads scripts last [] rfl⟩
    rw [split, List.append_assoc, List.cons_append]
  · rintro ⟨loads, loaded⟩ earlier script later split
    -- The script at the split is the last one, or it stands among those before it.
    rcases concat_eq_append_cons_iff.mp split with ⟨rfl, rfl, -⟩ | ⟨rest, -, before⟩
    · exact loaded
    · exact loads earlier script rest before

theorem failsFirst_concat {error : LoadError} : c.FailsFirst asked (scripts ++ [last]) error ↔
    c.FailsFirst asked scripts error ∨
      c.Loads asked scripts ∧ c.loader (asked ++ scripts) last = some error := by
  constructor
  · rintro ⟨earlier, script, later, split, loads, fails⟩
    rcases concat_eq_append_cons_iff.mp split with ⟨rfl, rfl, -⟩ | ⟨rest, -, before⟩
    · exact .inr ⟨loads, fails⟩
    · exact .inl ⟨earlier, script, rest, before, loads, fails⟩
  · rintro (⟨earlier, script, later, rfl, loads, fails⟩ | ⟨loads, fails⟩)
    · exact ⟨earlier, script, later ++ [last], by simp, loads, fails⟩
    · exact ⟨scripts, last, [], rfl, loads, fails⟩

/-- What scripts asked for one after another come to: all of them load, or the first error counts. -/
theorem loadAll_error (c : Controller) (session : Session) (scripts : List ExternalScript) :
    ((c.loadAll session scripts).2 = none ↔ c.Loads session.requests scripts) ∧
      ∀ error, (c.loadAll session scripts).2 = some error ↔
        c.FailsFirst session.requests scripts error := by
  induction scripts using List.reverseRecOn with
  | nil => simp [loadAll, Loads, FailsFirst]
  | append_singleton earlier last ih =>
    obtain ⟨loads, fails⟩ := ih
    -- The last script is asked for behind all the others, and its error counts if there was none.
    have next : (c.loadAll session (earlier ++ [last])).2 =
        (c.loadAll session earlier).2.or (c.loader (session.requests ++ earlier) last) := by
      have requests := congrArg Session.requests (c.loadAll_eq session earlier)
      rw [loadAll, List.foldl_append, ← loadAll, List.foldl_cons, List.foldl_nil, loadNext, load,
        requests]
    rw [next]
    constructor
    · rw [Option.or_eq_none_iff, loads, loads_concat]
    · intro error
      rw [Option.or_eq_some_iff, fails, loads, failsFirst_concat]

/-- Either scripts all load or one of them fails first. -/
theorem failsFirst_of_not_loads (fails : ¬c.Loads asked scripts) :
    ∃ error, c.FailsFirst asked scripts error := by
  induction scripts using List.reverseRecOn with
  | nil => exact absurd (by simp [Loads]) fails
  | append_singleton earlier last ih =>
    by_cases loads : c.Loads asked earlier
    · obtain ⟨error, herror⟩ : ∃ error, c.loader (asked ++ earlier) last = some error :=
        Option.ne_none_iff_exists'.mp fun loaded => fails (loads_concat.mpr ⟨loads, loaded⟩)
      exact ⟨error, failsFirst_concat.mpr (.inr ⟨loads, herror⟩)⟩
    · obtain ⟨error, first⟩ := ih loads
      exact ⟨error, failsFirst_concat.mpr (.inl first)⟩

end Scripts

/-! ## Early ends -/

/-- The first hook refuses to start the session. -/
def Vetoes (c : Controller) (session : Session) : Prop :=
  c.hooks.bound .beforeInit = true ∧
    c.hooks.respond session.calls ⟨.beforeInit, .object []⟩ = .cancel

/-- The scripts that a start waits for, in the order of their declaration. -/
def required (c : Controller) : List ExternalScript :=
  c.component.options.externalScripts.filter ExternalScript.required

/-- The scripts that are asked for once a session is ready. -/
def optional (c : Controller) : List ExternalScript :=
  c.component.options.externalScripts.filter fun script => !script.required

section Starts

variable {c : Controller} {session : Session}

theorem callHook_beforeInit (c : Controller) (session : Session) :
    (c.callHook session .beforeInit []).2 = false ↔ c.Vetoes session := by
  unfold callHook Vetoes
  split
  · rename_i bound
    simp [bound, HookPoint.canCancel]
  · rename_i unbound
    simp [unbound]

theorem launch_of_vetoes (vetoes : c.Vetoes session) :
    c.launch session =
      { session with
        lifecycle := .uninitialized
        calls := session.calls ++ [⟨.beforeInit, .object []⟩] } := by
  have refused := (c.callHook_beforeInit { session with lifecycle := .initializing }).mpr vetoes
  simp only [launch, refused]
  simp [callHook, vetoes.1]

/-- Behind its first hook a session becomes ready, and asks for the other scripts then. -/
theorem launch_of_not_vetoes (proceeds : ¬c.Vetoes session) :
    (c.launch session).lifecycle = .ready ∧
      (c.launch session).requests = session.requests ++ c.optional := by
  have agreed := (c.callHook_beforeInit { session with lifecycle := .initializing }).not.mpr proceeds
  rw [Bool.not_eq_false] at agreed
  obtain ⟨calls, hcalls⟩ := c.callHook_eq { session with lifecycle := .initializing } .beforeInit []
  simp only [launch, agreed, hcalls, loadAll_eq]
  -- Setting up asks for no script, so the optional ones follow on the required ones.
  have kept := (c.setUp_acts
    { session with lifecycle := .initializing, calls := calls }).kept.requests
  generalize c.setUp _ = worked at kept ⊢
  obtain ⟨done, hdone⟩ := c.callHook_eq { worked with lifecycle := .ready } .afterInit []
  rw [hdone]
  exact ⟨rfl, congrArg (· ++ _) kept⟩

theorem init_of_absent (unstarted : session.lifecycle = .uninitialized)
    (absent : session.document.contains c.component.id = false) :
    c.init session = { session with lifecycle := .failed (.containerMissing c.component.id) } := by
  simp [init, unstarted, absent]

/-- The first error of a required script ends a start, behind requests for all of them. -/
theorem init_of_failsFirst (unstarted : session.lifecycle = .uninitialized)
    (present : session.document.contains c.component.id = true) {error : LoadError}
    (fails : c.FailsFirst session.requests c.required error) :
    c.init session =
      { session with
        lifecycle := .failed (.script error)
        requests := session.requests ++ c.required
        notifications := session.notifications ++
          [⟨"error", .object [("error", .string error.message)]⟩] } := by
  have asked : c.loadAll { session with lifecycle := .loadingExternals } c.required =
      ({ session with
          lifecycle := .loadingExternals, requests := session.requests ++ c.required }, some error) :=
    Prod.ext (c.loadAll_eq _ _) (((c.loadAll_error _ _).2 error).mpr fails)
  rw [required] at asked
  simp only [init, unstarted, present, asked]
  rfl

/-- Behind the required scripts it is the first hook's turn. -/
theorem init_of_loads (unstarted : session.lifecycle = .uninitialized)
    (present : session.document.contains c.component.id = true)
    (loads : c.Loads session.requests c.required) :
    c.init session =
      c.launch
        { session with
          lifecycle := .loadingExternals
          requests := session.requests ++ c.required } := by
  have asked : c.loadAll { session with lifecycle := .loadingExternals } c.required =
      ({ session with
          lifecycle := .loadingExternals, requests := session.requests ++ c.required }, none) :=
    Prod.ext (c.loadAll_eq _ _) ((c.loadAll_error _ _).1.mpr loads)
  rw [required] at asked
  simp only [init, unstarted, present, asked]
  rfl

theorem init_of_vetoes (unstarted : session.lifecycle = .uninitialized)
    (present : session.document.contains c.component.id = true)
    (loads : c.Loads session.requests c.required) (vetoes : c.Vetoes session) :
    c.init session =
      { session with
        requests := session.requests ++ c.required
        calls := session.calls ++ [⟨.beforeInit, .object []⟩] } := by
  have launched : c.launch
      { session with
        lifecycle := .loadingExternals, requests := session.requests ++ c.required } = _ :=
    launch_of_vetoes vetoes
  rw [init_of_loads unstarted present loads, launched, ← unstarted]

theorem init_of_not_vetoes (unstarted : session.lifecycle = .uninitialized)
    (present : session.document.contains c.component.id = true)
    (loads : c.Loads session.requests c.required) (proceeds : ¬c.Vetoes session) :
    (c.init session).lifecycle = .ready ∧
      (c.init session).requests = session.requests ++ c.required ++ c.optional := by
  rw [init_of_loads unstarted present loads]
  exact launch_of_not_vetoes proceeds

/-- A start that does not make the session ready changes its phase and its logs alone, and asks for
required scripts alone. -/
theorem init_of_not_ready (unstarted : session.lifecycle = .uninitialized)
    (unready : (c.init session).lifecycle ≠ .ready) :
    ∃ lifecycle asked calls notifications, asked ⊆ c.required ∧
      c.init session =
        { session with
          lifecycle := lifecycle
          requests := session.requests ++ asked
          calls := calls
          notifications := notifications } := by
  cases present : session.document.contains c.component.id with
  | false => exact ⟨_, [], _, _, List.nil_subset _, by
      rw [init_of_absent unstarted present, List.append_nil]⟩
  | true =>
    by_cases loads : c.Loads session.requests c.required
    · by_cases vetoes : c.Vetoes session
      · exact ⟨_, _, _, _, List.Subset.refl _, init_of_vetoes unstarted present loads vetoes⟩
      · exact absurd (init_of_not_vetoes unstarted present loads vetoes).1 unready
    · obtain ⟨error, fails⟩ := failsFirst_of_not_loads loads
      exact ⟨_, _, _, _, List.Subset.refl _, init_of_failsFirst unstarted present fails⟩

/-! ## Starting again -/

/-- A session that was not started is a fresh one behind its own past. -/
theorem start_behind (c : Controller) (unstarted : session.lifecycle = .uninitialized)
    (sound : c.Sound session) :
    (Session.start c.component session.document).behind session = session := by
  have states : session.states = none := by simpa [unstarted] using sound.states
  have data : session.data = none := by simpa [unstarted] using sound.data
  have rules : session.rules = none := by simpa [unstarted] using sound.rules
  cases session
  simp_all [Session.behind, Session.start]

end Starts

/-- How the start of a session that was not started ends. Without the container it fails, and only the
phase changes. With it, all required scripts are asked for in their order; the first error among them
fails the start and is reported, and without one the first hook may refuse, which leaves the session
where it was but for the logs of requests and calls. Unless the session becomes ready, its document, its
registry and its views are those it had, and no other script was asked for. A session that is started
after that, whatever was done in between, starts as a fresh one with its document does under the hooks
and the loader as they have come to be. -/
theorem run_init_outcomes (c : Controller) (doc : Document) (operations : List Operation)
    (unstarted : (c.run (.start c.component doc) operations).lifecycle = .uninitialized) :
    let session := c.run (.start c.component doc) operations
    let after := c.init session
    let present := session.document.contains c.component.id
    (after.lifecycle ≠ .ready →
      after.document = session.document ∧ after.registry = session.registry ∧
        after.states = session.states ∧ after.data = session.data ∧ after.rules = session.rules ∧
        ∃ asked, after.requests = session.requests ++ asked ∧ asked ⊆ c.required) ∧
      (present = false → after =
        { session with lifecycle := .failed (.containerMissing c.component.id) }) ∧
      (present = true → ¬c.Loads session.requests c.required →
        ∃ error, c.FailsFirst session.requests c.required error ∧ after =
          { session with
            lifecycle := .failed (.script error)
            requests := session.requests ++ c.required
            notifications := session.notifications ++
              [⟨"error", .object [("error", .string error.message)]⟩] }) ∧
      (present = true → c.Loads session.requests c.required → c.Vetoes session → after =
        { session with
          requests := session.requests ++ c.required
          calls := session.calls ++ [⟨.beforeInit, .object []⟩] }) ∧
      (present = true → c.Loads session.requests c.required → ¬c.Vetoes session →
        after.lifecycle = .ready ∧ after.requests = session.requests ++ c.required ++ c.optional) ∧
      ∀ later, let again := c.run after later
        again.lifecycle = .uninitialized →
          c.init again =
            ((c.since again).init (.start c.component again.document)).behind again := by
  intro session after present
  refine ⟨fun unready => ?_, init_of_absent unstarted, fun contained fails => ?_,
    init_of_vetoes unstarted, init_of_not_vetoes unstarted, ?_⟩
  · obtain ⟨lifecycle, asked, calls, notifications, required, (heq : after = _)⟩ :=
      init_of_not_ready unstarted unready
    rw [heq]
    exact ⟨rfl, rfl, rfl, rfl, rfl, asked, rfl, required⟩
  · obtain ⟨error, first⟩ := failsFirst_of_not_loads fails
    exact ⟨error, first, init_of_failsFirst unstarted contained first⟩
  · intro later again fresh
    -- Soundness is a fact about runs, and the session came to be by one run with the start in it.
    have sound : c.Sound again := by
      have joined := c.run_sound doc (operations ++ .init :: later)
      rwa [run, List.foldl_append] at joined
    have remembered := c.start_behind fresh sound
    exact (congrArg c.init remembered.symm).trans (c.init_behind again _)

/-- A component with a script that it needs and one that it does not; its first hook refuses once. -/
def hesitant : Controller where
  component :=
    { id := "hesitant"
      inputs := ⟨some [.ofId "list" "List", .ofId "map" "Map"], none, none⟩
      options :=
        { Options.standard with
          externalScripts := [.ofSource "stats.js" false, .ofSource "charts.js" true] }
      accepted := by decide +kernel }
  hooks := ⟨fun _ => true, fun earlier _ => if earlier.isEmpty then .cancel else .proceed⟩
  loader := .preloaded
  stateFilters := .empty

/-- `hesitant` is refused at first, and asks for its required script once more when it is started
again. -/
theorem run_init_outcomes_hesitant :
    let fresh := hesitant.run (.start hesitant.component (.scaffold hesitant.component)) []
    let refused := hesitant.init fresh
    fresh.lifecycle = .uninitialized ∧ refused.lifecycle = .uninitialized ∧
      refused.requests = [.ofSource "charts.js" true] ∧
      hesitant.init refused =
        ((hesitant.since refused).init (.start hesitant.component refused.document)).behind refused ∧
      (hesitant.init refused).lifecycle = .ready ∧
      (hesitant.init refused).requests =
        [.ofSource "charts.js" true, .ofSource "charts.js" true, .ofSource "stats.js" false] := by
  intro fresh refused
  have unstarted : refused.lifecycle = .uninitialized := by decide +kernel
  obtain ⟨-, -, -, -, -, again⟩ :=
    hesitant.run_init_outcomes (.scaffold hesitant.component) [] (by decide +kernel)
  exact ⟨by decide +kernel, unstarted, by decide +kernel, again [] unstarted, by decide +kernel,
    by decide +kernel⟩

end Controller

end LiveMarkup
