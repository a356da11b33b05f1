import LiveMarkup.Payload
import Mathlib.Data.List.Induction
import Mathlib.Data.List.Perm.Basic
import Mathlib.Data.List.Sort

/-!
# Rules grouped by element

The index of a list of rules is the list put in another order: groups in the order in which their
elements are first watched, and each group a stable sort by descending priority (`filter_byPriority`).
A payload lists the rules group after group, and whoever reads it groups them again without sorting.
`regroup` does that, and `groups_regroup` says that it differs from the index of the same list in the
sorting alone. A list that is grouped and sorted already is therefore read back as the index it came
from (`regroup_ordered`, `ofRules_ordered`).
-/

set_option autoImplicit false

namespace LiveMarkup

namespace RuleIndex

/-- Whether a rule watches an element. -/
def watches (element : String) (rule : Rule) : Bool := rule.trigger.element == element

/-- The elements that rules watch, one for each rule. -/
def watched (rules : List Rule) : List String := rules.map fun rule => rule.trigger.element

/-! ## Priorities -/

/-- Whether one rule may stand before another. -/
def Precedes (rule other : Rule) : Prop := other.priority ≤ rule.priority

instance (rule other : Rule) : Decidable (Precedes rule other) :=
  inferInstanceAs (Decidable (_ ≤ _))

instance : IsTrans Rule Precedes := ⟨fun _ _ _ h k => Int.le_trans k h⟩

instance : Std.Total Precedes := ⟨fun rule other => Int.le_total other.priority rule.priority⟩

/-- Sorting by priority is the insertion sort of the library. -/
theorem byPriority_eq_insertionSort (rules : List Rule) :
    byPriority rules = rules.insertionSort Precedes := by
  have inserted : ∀ rule rules, insertRule rule rules = rules.orderedInsert Precedes rule := by
    intro rule rules
    induction rules with
    | nil => rfl
    | cons head rest ih =>
      rw [insertRule, List.orderedInsert_cons, ih]
      by_cases below : rule.priority < head.priority
      · have behind : ¬Precedes rule head := Int.not_le.mpr below
        rw [if_pos below, if_neg behind]
      · have before : Precedes rule head := Int.not_lt.mp below
        rw [if_neg below, if_pos before]
  unfold byPriority List.insertionSort
  congr 1
  funext rule rules
  exact inserted rule rules

theorem byPriority_perm (rules : List Rule) : (byPriority rules).Perm rules := by
  rw [byPriority_eq_insertionSort]
  exact List.perm_insertionSort Precedes rules

theorem byPriority_pairwise (rules : List Rule) : (byPriority rules).Pairwise Precedes := by
  rw [byPriority_eq_insertionSort]
  exact List.pairwise_insertionSort Precedes rules

theorem byPriority_of_pairwise {rules : List Rule} (sorted : rules.Pairwise Precedes) :
    byPriority rules = rules := by
  rw [byPriority_eq_insertionSort]
  exact sorted.insertionSort_eq

/-- Rules of one priority stay in their order. -/
theorem filter_byPriority (rules : List Rule) (priority : Int) :
    ((byPriority rules).filter fun rule => rule.priority == priority) =
      rules.filter fun rule => rule.priority == priority := by
  -- Equal rules are sorted already, so the sort keeps them as a sublist, and there are no others.
  have equals : (rules.filter fun rule => rule.priority == priority).Pairwise Precedes := by
    apply List.pairwise_of_forall_mem_list
    intro rule member other hother
    have first := (List.mem_filter.mp member).2
    have second := (List.mem_filter.mp hother).2
    rw [beq_iff_eq] at first second
    exact Int.le_of_eq (second.trans first.symm)
  have kept := List.sublist_insertionSort equals List.filter_sublist
  rw [← byPriority_eq_insertionSort] at kept
  have within := kept.filter fun rule : Rule => rule.priority == priority
  simp only [List.filter_filter, Bool.and_self] at within
  have many := ((byPriority_perm rules).filter fun rule => rule.priority == priority).length_eq
  exact (within.eq_of_length many.symm).symm

/-! ## Elements in the order in which they are first watched -/

theorem firstSeen_concat (names : List String) (name : String) :
    firstSeen (names ++ [name]) =
      if name ∈ firstSeen names then firstSeen names else firstSeen names ++ [name] := by
  simp only [firstSeen, List.foldl_append, List.foldl_cons, List.foldl_nil,
    List.contains_iff_mem]

theorem mem_firstSeen {names : List String} {name : String} :
    name ∈ firstSeen names ↔ name ∈ names := by
  induction names using List.reverseRecOn with
  | nil => exact Iff.rfl
  | append_singleton names last ih =>
    rw [firstSeen_concat, List.mem_append, List.mem_singleton, ← ih]
    split
    · rename_i seen
      constructor
      · exact .inl
      · rintro (earlier | rfl)
        · exact earlier
        · exact seen
    · rw [List.mem_append, List.mem_singleton]

theorem nodup_firstSeen (names : List String) : (firstSeen names).Nodup := by
  induction names using List.reverseRecOn with
  | nil => exact .nil
  | append_singleton names last ih =>
    rw [firstSeen_concat]
    split
    · exact ih
    · rename_i unseen
      apply ih.append (List.nodup_singleton last)
      intro name earlier same
      exact unseen (List.mem_singleton.mp same ▸ earlier)

/-- An element comes before another when it is first named before it. -/
theorem firstSeen_pairwise (names : List String) :
    (firstSeen names).Pairwise fun name other => names.idxOf name < names.idxOf other := by
  induction names using List.reverseRecOn with
  | nil => exact .nil
  | append_singleton names last ih =>
    -- Behind the list a name changes nothing for those that stand in it.
    have earlier : ∀ name ∈ firstSeen names, (names ++ [last]).idxOf name = names.idxOf name := by
      intro name member
      rw [List.idxOf_append, if_pos (mem_firstSeen.mp member)]
    have still : (firstSeen names).Pairwise fun name other =>
        (names ++ [last]).idxOf name < (names ++ [last]).idxOf other := by
      refine ih.imp_of_mem ?_
      intro name other member hother before
      rw [earlier name member, earlier other hother]
      exact before
    rw [firstSeen_concat]
    split
    · exact still
    · rename_i unseen
      refine List.pairwise_append.mpr ⟨still, List.pairwise_singleton _ _, ?_⟩
      intro name member new same
      rw [List.mem_singleton.mp same, earlier name member, List.idxOf_append,
        if_neg (fun named => unseen (mem_firstSeen.mpr named))]
      have before := List.idxOf_lt_length_of_mem (mem_firstSeen.mp member)
      omega

/-- Naming what was named before changes nothing. -/
theorem firstSeen_append_of_mem {names more : List String}
    (named : ∀ name ∈ more, name ∈ names) : firstSeen (names ++ more) = firstSeen names := by
  induction more using List.reverseRecOn with
  | nil => rw [List.append_nil]
  | append_singleton more last ih =>
    have earlier : ∀ name ∈ more, name ∈ names := by
      intro name member
      exact named name (List.mem_append_left _ member)
    have again : last ∈ names := named last (by simp)
    rw [← List.append_assoc, firstSeen_concat, ih earlier, if_pos (mem_firstSeen.mpr again)]

/-- Groups of different keys, none of them empty, are first seen in their order. -/
theorem firstSeen_flatMap {keys : List String} {block : String → List String}
    (different : keys.Nodup) (filled : ∀ key ∈ keys, block key ≠ [])
    (alike : ∀ key ∈ keys, ∀ name ∈ block key, name = key) :
    firstSeen (keys.flatMap block) = keys := by
  induction keys using List.reverseRecOn with
  | nil => rfl
  | append_singleton keys last ih =>
    obtain ⟨apart, -, fresh⟩ := List.nodup_append.mp different
    have earlier := ih apart (fun key member => filled key (List.mem_append_left _ member))
      (fun key member => alike key (List.mem_append_left _ member))
    -- The first name of the last block is new, and the others repeat it.
    obtain ⟨first, rest, split⟩ := List.exists_cons_of_ne_nil (filled last (by simp))
    have same := alike last (by simp)
    rw [split] at same
    obtain rfl : first = last := same first List.mem_cons_self
    have unseen : first ∉ firstSeen (keys.flatMap block) := by
      rw [earlier]
      intro member
      exact fresh first member first (List.mem_singleton_self first) rfl
    rw [List.flatMap_append, List.flatMap_singleton, split, List.append_cons,
      firstSeen_append_of_mem, firstSeen_concat, if_neg unseen, earlier]
    intro name member
    rw [same name (List.mem_cons_of_mem _ member)]
    simp

/-! ## Groups -/

theorem mem_watched {rules : List Rule} {element : String} :
    element ∈ watched rules ↔ ∃ rule ∈ rules, rule.trigger.element = element :=
  List.mem_map

/-- Nothing watches an element that is not among the watched ones. -/
theorem filter_watches_of_not_mem {rules : List Rule} {element : String}
    (unwatched : element ∉ watched rules) : rules.filter (watches element) = [] := by
  rw [List.filter_eq_nil_iff]
  intro rule member watching
  exact unwatched (mem_watched.mpr ⟨rule, member, beq_iff_eq.mp watching⟩)

theorem groups_ofRules (rules : List Rule) :
    (ofRules rules).groups = (firstSeen (watched rules)).map fun element =>
      (element, byPriority (rules.filter (watches element))) :=
  rfl

theorem triggers_ofRules (rules : List Rule) :
    (ofRules rules).triggers = firstSeen (watched rules) := by
  rw [triggers, groups_ofRules, List.map_map]
  exact List.map_id _

theorem rulesFor_ofRules (rules : List Rule) (element : String) :
    (ofRules rules).rulesFor element = byPriority (rules.filter (watches element)) := by
  rw [rulesFor, groups_ofRules]
  by_cases named : element ∈ watched rules
  · rw [List.lookup_graph (fun element => byPriority (rules.filter (watches element)))
      (mem_firstSeen.mpr named), Option.getD_some]
  · have missing : List.lookup element ((firstSeen (watched rules)).map fun element =>
        (element, byPriority (rules.filter (watches element)))) = none := by
      rw [List.lookup_eq_none_iff]
      intro group member
      obtain ⟨key, seen, rfl⟩ := List.mem_map.mp member
      rw [bne_iff_ne]
      rintro rfl
      exact named (mem_firstSeen.mp seen)
    rw [missing, filter_watches_of_not_mem named]
    rfl

theorem mem_rulesFor {rules : List Rule} {element : String} {rule : Rule} :
    rule ∈ (ofRules rules).rulesFor element ↔ rule ∈ rules ∧ rule.trigger.element = element := by
  rw [rulesFor_ofRules, mem_byPriority, List.mem_filter, watches, beq_iff_eq]

theorem ordered_ofRules (rules : List Rule) :
    (ofRules rules).ordered = (ofRules rules).triggers.flatMap (ofRules rules).rulesFor := by
  rw [triggers_ofRules, funext (rulesFor_ofRules rules), ordered, groups_ofRules,
    List.flatMap_map]

/-- Rules taken apart by the elements they watch are all there. -/
theorem perm_flatMap_filter {keys : List String} (different : keys.Nodup) {rules : List Rule}
    (complete : ∀ rule ∈ rules, rule.trigger.element ∈ keys) :
    (keys.flatMap fun key => rules.filter (watches key)).Perm rules := by
  induction keys generalizing rules with
  | nil =>
    obtain rfl : rules = [] := by
      rw [List.eq_nil_iff_forall_not_mem]
      intro rule member
      exact List.not_mem_nil (complete rule member)
    exact .nil
  | cons key rest ih =>
    obtain ⟨fresh, apart⟩ := List.nodup_cons.mp different
    -- The other groups are found among the rules that do not watch the first element.
    have others : ∀ other ∈ rest, rules.filter (watches other) =
        (rules.filter fun rule => !watches key rule).filter (watches other) := by
      intro other member
      rw [List.filter_filter]
      apply List.filter_congr
      intro rule _
      by_cases watching : rule.trigger.element = other
      · have differs : other ≠ key := fun same => fresh (same ▸ member)
        simp [watches, watching, differs]
      · simp [watches, watching]
    have remaining : ∀ rule ∈ rules.filter (fun rule => !watches key rule),
        rule.trigger.element ∈ rest := by
      intro rule member
      obtain ⟨listed, other⟩ := List.mem_filter.mp member
      rcases List.mem_cons.mp (complete rule listed) with same | later
      · simp [watches, same] at other
      · exact later
    rw [List.flatMap_cons, List.flatMap_congr others]
    exact ((ih apart remaining).append_left _).trans (List.filter_append_perm _ rules)

/-- No rule is lost and none is added. -/
theorem ordered_perm (rules : List Rule) : (ofRules rules).ordered.Perm rules := by
  rw [ordered_ofRules, triggers_ofRules, funext (rulesFor_ofRules rules)]
  have sorted : ((firstSeen (watched rules)).flatMap fun element =>
      byPriority (rules.filter (watches element))).Perm
        ((firstSeen (watched rules)).flatMap fun element => rules.filter (watches element)) :=
    .flatMap_left _ fun element _ => byPriority_perm _
  refine sorted.trans (perm_flatMap_filter (nodup_firstSeen _) ?_)
  intro rule member
  exact mem_firstSeen.mpr (mem_watched.mpr ⟨rule, member, rfl⟩)

theorem size_eq_length_ordered (index : RuleIndex) : index.size = index.ordered.length := by
  have counted : ∀ (groups : List (String × List Rule)) (count : Nat),
      groups.foldl (fun size group => size + group.2.length) count =
        count + (groups.flatMap Prod.snd).length := by
    intro groups
    induction groups with
    | nil => exact fun _ => rfl
    | cons group rest ih =>
      intro count
      rw [List.foldl_cons, ih, List.flatMap_cons, List.length_append, Nat.add_assoc]
  rw [size, counted, Nat.zero_add, ordered]

/-- Of the rules of groups over different elements those that watch one element are its group. -/
theorem filter_flatMap {keys : List String} {block : String → List Rule}
    (different : keys.Nodup) (watching : ∀ key, ∀ rule ∈ block key, rule.trigger.element = key)
    (element : String) :
    (keys.flatMap block).filter (watches element) = if element ∈ keys then block element else [] := by
  induction keys with
  | nil => rfl
  | cons key rest ih =>
    obtain ⟨fresh, apart⟩ := List.nodup_cons.mp different
    rw [List.flatMap_cons, List.filter_append, ih apart]
    by_cases same : element = key
    · subst same
      have whole : (block element).filter (watches element) = block element := by
        rw [List.filter_eq_self]
        intro rule member
        exact beq_iff_eq.mpr (watching element rule member)
      rw [whole, if_neg fresh, if_pos List.mem_cons_self, List.append_nil]
    · have none : (block key).filter (watches element) = [] := by
        rw [List.filter_eq_nil_iff]
        intro rule member watched
        exact same ((beq_iff_eq.mp watched).symm.trans (watching key rule member))
      rw [none, List.nil_append]
      simp only [List.mem_cons, same, false_or]

theorem filter_ordered (rules : List Rule) (element : String) :
    (ofRules rules).ordered.filter (watches element) = (ofRules rules).rulesFor element := by
  have watching : ∀ key, ∀ rule ∈ (ofRules rules).rulesFor key, rule.trigger.element = key := by
    intro key rule member
    exact (mem_rulesFor.mp member).2
  rw [ordered_ofRules, triggers_ofRules, filter_flatMap (nodup_firstSeen _) watching]
  split
  · rfl
  · rename_i unseen
    have unwatched : element ∉ watched rules := fun named => unseen (mem_firstSeen.mpr named)
    rw [rulesFor_ofRules, filter_watches_of_not_mem unwatched]
    rfl

/-- Listing the rules group after group does not change which element is watched first. -/
theorem firstSeen_watched_ordered (rules : List Rule) :
    firstSeen (watched (ofRules rules).ordered) = firstSeen (watched rules) := by
  have mapped : watched (ofRules rules).ordered =
      (firstSeen (watched rules)).flatMap fun element =>
        watched ((ofRules rules).rulesFor element) := by
    rw [ordered_ofRules, triggers_ofRules, watched, List.map_flatMap]
    rfl
  rw [mapped]
  apply firstSeen_flatMap (nodup_firstSeen _)
  · intro element seen empty
    obtain ⟨rule, member, watching⟩ := mem_watched.mp (mem_firstSeen.mp seen)
    have listed : rule ∈ (ofRules rules).rulesFor element := mem_rulesFor.mpr ⟨member, watching⟩
    rw [List.map_eq_nil_iff.mp empty] at listed
    exact List.not_mem_nil listed
  · intro element _ name named
    obtain ⟨rule, member, rfl⟩ := mem_watched.mp named
    exact (mem_rulesFor.mp member).2

/-- The index of the rules in its own order is the same index. -/
theorem ofRules_ordered (rules : List Rule) : ofRules (ofRules rules).ordered = ofRules rules := by
  have groups : (ofRules (ofRules rules).ordered).groups = (ofRules rules).groups := by
    rw [groups_ofRules, groups_ofRules, firstSeen_watched_ordered]
    apply List.map_congr_left
    intro element _
    rw [filter_ordered, rulesFor_ofRules, byPriority_of_pairwise (byPriority_pairwise _)]
  exact congrArg RuleIndex.mk groups

/-! ## Grouping without sorting -/

/-- Puts a rule behind those that watch the same element, or into a new group behind the others. -/
def addRule (rule : Rule) : List (String × List Rule) → List (String × List Rule)
  | [] => [(rule.trigger.element, [rule])]
  | group :: rest =>
    if group.1 = rule.trigger.element then (group.1, group.2 ++ [rule]) :: rest
    else group :: addRule rule rest

/-- Groups rules in the order in which they come. -/
def regroup (rules : List Rule) : RuleIndex :=
  ⟨rules.foldl (fun groups rule => addRule rule groups) []⟩

/-- A rule that watches a new element starts a group of its own. -/
theorem addRule_of_not_mem {rule : Rule} {keys : List String} {group : String → List Rule}
    (fresh : rule.trigger.element ∉ keys) :
    addRule rule (keys.map fun key => (key, group key)) =
      (keys.map fun key => (key, group key)) ++ [(rule.trigger.element, [rule])] := by
  induction keys with
  | nil => rfl
  | cons key rest ih =>
    rw [List.mem_cons, not_or] at fresh
    rw [List.map_cons, addRule, if_neg (Ne.symm fresh.1), ih fresh.2, List.cons_append]

/-- A rule that watches a known element joins its group. -/
theorem addRule_of_mem {rule : Rule} {keys : List String} {group : String → List Rule}
    (different : keys.Nodup) (known : rule.trigger.element ∈ keys) :
    addRule rule (keys.map fun key => (key, group key)) =
      keys.map fun key => (key, group key ++ [rule].filter (watches key)) := by
  induction keys with
  | nil => exact absurd known List.not_mem_nil
  | cons key rest ih =>
    obtain ⟨fresh, apart⟩ := List.nodup_cons.mp different
    rw [List.map_cons, List.map_cons, addRule]
    by_cases same : key = rule.trigger.element
    · subst same
      -- No later group has this key, so the rest stays as it is.
      have others : ∀ other ∈ rest, (other, group other) =
          (other, group other ++ [rule].filter (watches other)) := by
        intro other member
        have differs : rule.trigger.element ≠ other := fun h => fresh (h ▸ member)
        simp [watches, differs]
      rw [if_pos rfl, List.map_congr_left others]
      simp [watches]
    · have later : rule.trigger.element ∈ rest :=
        (List.mem_cons.mp known).resolve_left (Ne.symm same)
      rw [if_neg same, ih apart later]
      simp [watches, Ne.symm same]

/-- The groups are those of an index whose rules stay in their order. -/
theorem groups_regroup (rules : List Rule) :
    (regroup rules).groups = (firstSeen (watched rules)).map fun element =>
      (element, rules.filter (watches element)) := by
  induction rules using List.reverseRecOn with
  | nil => rfl
  | append_singleton rules rule ih =>
    have split : watched (rules ++ [rule]) = watched rules ++ [rule.trigger.element] := by
      rw [watched, List.map_append]
      rfl
    have added : (regroup (rules ++ [rule])).groups = addRule rule (regroup rules).groups := by
      simp only [regroup, List.foldl_append, List.foldl_cons, List.foldl_nil]
    rw [added, ih, split, firstSeen_concat]
    simp only [List.filter_append]
    split
    · rename_i seen
      exact addRule_of_mem (nodup_firstSeen _) seen
    · rename_i unseen
      rw [addRule_of_not_mem unseen, List.map_append]
      congr 1
      · apply List.map_congr_left
        intro key seen
        have differs : rule.trigger.element ≠ key := fun same => unseen (same ▸ seen)
        simp [watches, differs]
      · have unwatched : rule.trigger.element ∉ watched rules := fun named =>
          unseen (mem_firstSeen.mpr named)
        rw [List.map_singleton, filter_watches_of_not_mem unwatched]
        simp [watches]

/-- Rules listed group after group are grouped as before. -/
theorem regroup_ordered (rules : List Rule) : regroup (ofRules rules).ordered = ofRules rules := by
  have groups : (regroup (ofRules rules).ordered).groups = (ofRules rules).groups := by
    rw [groups_regroup, groups_ofRules, firstSeen_watched_ordered]
    apply List.map_congr_left
    intro element _
    rw [filter_ordered, rulesFor_ofRules]
  exact congrArg RuleIndex.mk groups

/-! ## Payloads -/

/-- The index of a list of rules holds these rules and no others. Its elements stand in the order in
which the list first watches them, and its rules element by element; those of one element descend in
priority and keep their order among equals. A payload carries the rules in this order, if the pattern
of its component uses rules: grouped as they come they are the index, and so they are when they are
indexed anew. -/
theorem ofRules_carried (rules : List Rule) (component : Component) (theme : Theme) :
    ((ofRules rules).ordered.Perm rules ∧ (ofRules rules).size = rules.length) ∧
      ((ofRules rules).triggers.Nodup ∧
        (∀ element, element ∈ (ofRules rules).triggers ↔
          ∃ rule ∈ rules, rule.trigger.element = element) ∧
        ((ofRules rules).triggers.Pairwise fun element other =>
          (watched rules).idxOf element < (watched rules).idxOf other) ∧
        (ofRules rules).ordered = (ofRules rules).triggers.flatMap (ofRules rules).rulesFor) ∧
      (∀ element, (∀ rule ∈ (ofRules rules).rulesFor element, rule.trigger.element = element) ∧
        ((ofRules rules).rulesFor element).Pairwise
          (fun rule other => other.priority ≤ rule.priority) ∧
        ∀ priority, (((ofRules rules).rulesFor element).filter fun rule =>
            rule.priority == priority) =
          (rules.filter (watches element)).filter fun rule => rule.priority == priority) ∧
      (regroup (ofRules rules).ordered = ofRules rules ∧
        ofRules (ofRules rules).ordered = ofRules rules ∧
        ∀ element, (ofRules rules).ordered.filter (watches element) =
          (ofRules rules).rulesFor element) ∧
      regroup (Payload.ofComponent component theme).rules =
        ofRules (if component.pattern.usesRules then component.rules else []) := by
  refine ⟨⟨ordered_perm rules, ?_⟩, ⟨?_, ?_, ?_, ordered_ofRules rules⟩, ?_,
    ⟨regroup_ordered rules, ofRules_ordered rules, filter_ordered rules⟩, ?_⟩
  · rw [size_eq_length_ordered, (ordered_perm rules).length_eq]
  · rw [triggers_ofRules]
    exact nodup_firstSeen _
  · intro element
    rw [triggers_ofRules, mem_firstSeen, mem_watched]
  · rw [triggers_ofRules]
    exact firstSeen_pairwise _
  · intro element
    refine ⟨fun rule member => (mem_rulesFor.mp member).2, ?_, ?_⟩
    · rw [rulesFor_ofRules]
      exact byPriority_pairwise _
    · intro priority
      rw [rulesFor_ofRules, filter_byPriority]
  · simp only [Payload.ofComponent]
    split
    · exact regroup_ordered component.rules
    · rfl

end RuleIndex

end LiveMarkup
