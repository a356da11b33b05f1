import LiveMarkup.Page
import LiveMarkup.Project.Compilation
import LiveMarkup.Proofs.Controller.Shown
import LiveMarkup.Proofs.Markup.Ids
import Mathlib.Data.List.Pairwise

/-!
# Ids on a page

The ids that one component has for itself differ, and components with one id cannot share a page. Yet a
page can hold an id twice: a component may be called what another one calls one of its elements. The
collision check compares the names that components are published under and not their ids, so it does not
find this. A page is free of it exactly when no component `Overlaps` another one
(`Page.nodup_ownIds_iff`).
-/

set_option autoImplicit false

namespace LiveMarkup

/-! ## One component -/

theorem append_right_injective (front : String) : Function.Injective (front ++ ·) := by
  intro rest other same
  have lists := congrArg String.toList same
  simp only [String.toList_append, List.append_cancel_left_eq] at lists
  exact String.toList_inj.mp lists

/-- Two texts that end up alike: the front of one goes on from the front of the other. -/
theorem exists_more_of_append_eq {front rest other more : String} (same : front ++ rest = other ++ more) :
    (∃ between, other = front ++ between ∧ rest = between ++ more) ∨
      ∃ between, front = other ++ between ∧ more = between ++ rest := by
  have lists := congrArg String.toList same
  simp only [String.toList_append] at lists
  rcases List.append_eq_append_iff.mp lists with
    ⟨between, front_eq, rest_eq⟩ | ⟨between, front_eq, rest_eq⟩
  · exact .inl ⟨String.ofList between, by simp [← String.toList_inj, front_eq],
      by simp [← String.toList_inj, rest_eq]⟩
  · exact .inr ⟨String.ofList between, by simp [← String.toList_inj, front_eq],
      by simp [← String.toList_inj, rest_eq]⟩

namespace Component

theorem nodup_stateMarks (component : Component) (front : String) :
    (component.stateMarks front).Nodup := by
  rw [stateMarks]
  split
  · have marks := component.nodup_stateIds.map (append_right_injective front)
    rwa [List.map_map] at marks
  · exact List.nodup_nil

/-- The marks of states begin as what the states are marked with. -/
theorem getElem?_of_mem_stateMarks {component : Component} {front mark : String} {index : Nat} {c : Char}
    (begins : front.toList[index]? = some c) (member : mark ∈ component.stateMarks front) :
    mark.toList[index]? = some c := by
  rw [stateMarks] at member
  split at member
  · obtain ⟨state, -, rfl⟩ := List.mem_map.mp member
    rw [String.toList_append, List.getElem?_append_left (List.getElem?_eq_some_iff.mp begins).1, begins]
  · cases member

theorem mem_stateMarks_of_mem_tabMarks {component : Component} {mark : String}
    (member : mark ∈ component.tabMarks) : mark ∈ component.stateMarks "-tab-" := by
  rw [tabMarks] at member
  split at member
  · exact member
  · cases member

theorem eq_of_mem_resultMarks {component : Component} {mark : String}
    (member : mark ∈ component.resultMarks) : mark = "-results" := by
  rw [resultMarks] at member
  split at member
  · obtain ⟨data, -, rfl⟩ := List.mem_map.mp member
    rfl
  · cases member

theorem nodup_resultMarks (component : Component) : component.resultMarks.Nodup := by
  rw [resultMarks]
  split
  · cases component.data <;> simp
  · exact List.nodup_nil

/-- The ids that a component has for itself differ: the second character of a mark says what it is the
mark of. -/
theorem nodup_ownMarks (component : Component) : component.ownMarks.Nodup := by
  have tab : ∀ mark ∈ component.tabMarks, mark.toList[1]? = some 't' := fun mark member =>
    getElem?_of_mem_stateMarks (by decide) (mem_stateMarks_of_mem_tabMarks member)
  have panel : ∀ mark ∈ component.stateMarks "-panel-", mark.toList[1]? = some 'p' :=
    fun mark => getElem?_of_mem_stateMarks (by decide)
  have result : ∀ mark ∈ component.resultMarks, mark.toList[1]? = some 'r' := by
    intro mark member
    rw [eq_of_mem_resultMarks member]
    decide
  have config : ∀ mark ∈ ["-config"], mark.toList[1]? = some 'c' := by decide
  have root : "".toList[1]? = none := rfl
  have tabs : component.tabMarks.Nodup := by
    rw [tabMarks]
    split
    · exact component.nodup_stateMarks _
    · exact List.nodup_nil
  have results : (component.resultMarks ++ ["-config"]).Nodup :=
    component.nodup_resultMarks.append (List.nodup_singleton _) (by intro mark; grind)
  have panels : (component.stateMarks "-panel-" ++ (component.resultMarks ++ ["-config"])).Nodup :=
    (component.nodup_stateMarks _).append results (by intro mark; grind)
  refine List.nodup_cons.mpr ⟨?_, tabs.append panels (by intro mark; grind)⟩
  simp only [List.mem_append]
  grind

/-! ## Two components -/

/-- One component is called like another one with more behind it, and some id that it has for itself is
one of the other's. -/
def Overlaps (component other : Component) : Prop :=
  ∃ more, more ≠ "" ∧ other.id = component.id ++ more ∧
    ∃ mark ∈ other.ownMarks, more ++ mark ∈ component.ownMarks

theorem not_overlaps_self (component : Component) : ¬ component.Overlaps component := by
  rintro ⟨more, some, longer, -⟩
  have lists := congrArg String.toList longer
  rw [String.toList_append, List.self_eq_append_right] at lists
  exact some (String.toList_inj.mp lists)

theorem mem_ownIds {component : Component} {id : String} :
    id ∈ component.ownIds ↔ ∃ mark ∈ component.ownMarks, component.id ++ mark = id :=
  List.mem_map

/-- Components share an id exactly when one is called by a longer name that leads to it. -/
theorem disjoint_ownIds_iff {component other : Component} (apart : component.id ≠ other.id) :
    component.ownIds.Disjoint other.ownIds ↔
      ¬ component.Overlaps other ∧ ¬ other.Overlaps component := by
  constructor
  · intro disjoint
    constructor
    · rintro ⟨more, -, longer, mark, member, shared⟩
      refine disjoint (mem_ownIds.mpr ⟨_, shared, rfl⟩) (mem_ownIds.mpr ⟨mark, member, ?_⟩)
      rw [longer, String.append_assoc]
    · rintro ⟨more, -, longer, mark, member, shared⟩
      refine disjoint (mem_ownIds.mpr ⟨mark, member, ?_⟩) (mem_ownIds.mpr ⟨_, shared, rfl⟩)
      rw [longer, String.append_assoc]
  · -- An id that both have is written in two ways, so one component's id goes on from the other's.
    rintro ⟨forth, back⟩ id own own'
    obtain ⟨mark, member, rfl⟩ := mem_ownIds.mp own
    obtain ⟨mark', member', same⟩ := mem_ownIds.mp own'
    rcases exists_more_of_append_eq same with ⟨more, longer, rest⟩ | ⟨more, longer, rest⟩
    · refine back ⟨more, ?_, longer, mark, member, rest ▸ member'⟩
      rintro rfl
      exact apart (by rw [longer, String.append_empty])
    · refine forth ⟨more, ?_, longer, mark', member', rest ▸ member⟩
      rintro rfl
      exact apart (by rw [longer, String.append_empty])

theorem nodup_ownIds (component : Component) : component.ownIds.Nodup :=
  component.nodup_ownMarks.map (append_right_injective component.id)

end Component

/-! ## Pages -/

namespace Page

/-- Components can share a page exactly when they are published under different names. -/
theorem collisionAfter_eq_none_iff {seen : List (String × String)} {outputs : List ComponentOutput} :
    collisionAfter seen outputs = none ↔
      (outputs.map fun output => (Script.Identifier.globalName output.id).name).Nodup ∧
        ∀ output ∈ outputs, seen.lookup (Script.Identifier.globalName output.id).name = none := by
  induction outputs generalizing seen with
  | nil => simp [collisionAfter]
  | cons output rest ih =>
    rw [collisionAfter]
    cases found : seen.lookup (Script.Identifier.globalName output.id).name with
    | some first =>
      -- The check ends here, and the name is among those before.
      refine iff_of_false (by simp) fun free => ?_
      rw [free.2 output List.mem_cons_self] at found
      cases found
    | none =>
      have later : ∀ name, ((((Script.Identifier.globalName output.id).name, output.id) :: seen).lookup
          name = none ↔ name ≠ (Script.Identifier.globalName output.id).name ∧
            seen.lookup name = none) := by
        simp [List.lookup_eq_none_iff]
      simp only [ih, later, List.map_cons, List.nodup_cons, List.mem_map, not_exists, not_and,
        List.forall_mem_cons, found, true_and, forall_and]
      constructor
      · rintro ⟨nodup, other, free⟩
        exact ⟨⟨other, nodup⟩, free⟩
      · rintro ⟨⟨other, nodup⟩, free⟩
        exact ⟨nodup, other, free⟩

/-- Components that share a page have different ids. -/
theorem nodup_ids_of_render {title text : String} {theme : Theme} {outputs : List ComponentOutput}
    (rendered : render title theme outputs = .ok text) : (outputs.map ComponentOutput.id).Nodup := by
  rw [render] at rendered
  split at rendered
  · cases rendered
  · rename_i none
    have names := (collisionAfter_eq_none_iff.mp none).1
    exact .of_map (fun id => (Script.Identifier.globalName id).name) (by rwa [List.map_map])

/-- The ids on a page are those that its components have for themselves and those of their content. The
former differ from one another exactly when no component is called by a longer name that leads to an id
of another one. -/
theorem nodup_ownIds_iff {title text : String} {theme : Theme} {themed : List Themed}
    (rendered : render title theme (themed.map fun shown => shown.component.output shown.theme) =
      .ok text) :
    (themed.flatMap fun shown => shown.component.writtenIds shown.theme).Perm
        ((themed.flatMap fun shown => shown.component.ownIds) ++
          themed.flatMap fun shown => shown.component.contentIds) ∧
      ((themed.flatMap fun shown => shown.component.ownIds).Nodup ↔
        ∀ shown ∈ themed, ∀ other ∈ themed, ¬ shown.component.Overlaps other.component) := by
  have apart : themed.Pairwise fun shown other => shown.component.id ≠ other.component.id := by
    have ids := nodup_ids_of_render rendered
    rw [List.map_map] at ids
    exact List.pairwise_map.mp ids
  constructor
  · -- Each component's ids are put together on their own before those of all are.
    have each : (themed.flatMap fun shown => shown.component.writtenIds shown.theme).Perm
        (themed.flatMap fun shown => shown.component.ownIds ++ shown.component.contentIds) :=
      .flatMap_left themed fun shown _ => shown.component.writtenIds_perm shown.theme
    exact each.trans (List.flatMap_append_perm themed _ _).symm
  · rw [List.nodup_flatMap, and_iff_right fun shown _ => shown.component.nodup_ownIds]
    constructor
    · intro disjoint
      -- Being apart has both directions in it, so an order on the list is of no matter.
      have either := disjoint.imp₂ (fun shown other shared different =>
        (Component.disjoint_ownIds_iff different).mp shared) apart
      have : Std.Symm fun shown other : Themed => ¬ shown.component.Overlaps other.component ∧
        ¬ other.component.Overlaps shown.component := ⟨fun _ _ => And.symm⟩
      have all := either.forall_of_forall fun shown _ =>
        ⟨shown.component.not_overlaps_self, shown.component.not_overlaps_self⟩
      exact fun shown member other member' => (all member member').1
    · intro free
      have both := List.pairwise_of_forall_mem_list (l := themed)
        (r := fun shown other => ¬ shown.component.Overlaps other.component ∧
          ¬ other.component.Overlaps shown.component)
        fun shown member other member' =>
          ⟨free shown member other member', free other member' shown member⟩
      exact both.imp₂ (fun shown other separate different =>
        (Component.disjoint_ownIds_iff different).mpr separate) apart

/-- A component of states without labels and content. -/
def tabbed (id : String) (states : List String)
    (accepted : componentError? id ⟨some (states.map fun state => .ofId state ""), none, none⟩
      .standard = none) : Themed :=
  ⟨⟨id, ⟨some (states.map fun state => .ofId state ""), none, none⟩, .standard, accepted⟩, .standard⟩

/-- Two components whose ids lead apart. -/
def apartPage : List Themed :=
  [tabbed "a" ["x", "y"] (by decide), tabbed "b" ["x"] (by decide)]

/-- A component, and one that is called what the first one calls its payload. -/
def clashingPage : List Themed :=
  [tabbed "a" ["x", "y"] (by decide), tabbed "a-config" ["x"] (by decide)]

theorem nodup_ownIds_iff_apart :
    ∃ text, render "T" .standard (apartPage.map fun shown => shown.component.output shown.theme) =
        .ok text ∧
      (apartPage.flatMap fun shown => shown.component.ownIds).Nodup ∧
      ∀ shown ∈ apartPage, ∀ other ∈ apartPage, ¬ shown.component.Overlaps other.component := by
  have free : collision? (apartPage.map fun shown => shown.component.output shown.theme) = none := by
    decide +kernel
  have rendered : render "T" .standard (apartPage.map fun shown => shown.component.output shown.theme) =
      .ok (text "T" .standard (apartPage.map fun shown => shown.component.output shown.theme)) := by
    rw [render, free]
  have nodup : (apartPage.flatMap fun shown => shown.component.ownIds).Nodup := by decide +kernel
  exact ⟨_, rendered, nodup, (nodup_ownIds_iff rendered).2.mp nodup⟩

/-- A page with an id that stands for two elements. -/
theorem render_clashing :
    ∃ text, render "T" .standard (clashingPage.map fun shown => shown.component.output shown.theme) =
      .ok text ∧ ¬ (clashingPage.flatMap fun shown => shown.component.ownIds).Nodup := by
  have free : collision? (clashingPage.map fun shown => shown.component.output shown.theme) = none := by
    decide +kernel
  exact ⟨_, by rw [render, free], by decide +kernel⟩

end Page

end LiveMarkup
