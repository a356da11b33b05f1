import LiveMarkup.Component.Reader
import LiveMarkup.Markup.Structure
import LiveMarkup.Proofs.Markup.Content
import LiveMarkup.Proofs.Text.AsciiCase

/-!
# The markup of components read back

The names in the markup of a component come from two fixed lists, from content, from custom attributes
and from the names of fields, and its trusted markup is that of its panels and what the template makes
of its rows (`Structure.built_root`). Without trusted markup it is read as one element. Everything else that a component and a theme hold, such as ids, labels,
choices and records, is found in texts and attribute values only. The panels are children of the root
element, with their content as it was given (`Structure.node_root`, `Structure.nodes_states`).
-/

set_option autoImplicit false

namespace LiveMarkup

/-! ## Names -/

/-- The attributes of a tag. -/
def Markup.attributes : Markup → List Attribute
  | .tag _ attributes _ => attributes
  | _ => []

/-- The children of a tag. -/
def Markup.children : Markup → List Markup
  | .tag _ _ children => children
  | _ => []

namespace Structure

/-- The names of the tags that the markup of components is made of. -/
def tagNames : List String :=
  ["button", "div", "input", "label", "nav", "option", "select", "span", "template"]

/-- The names of the attributes in the markup of components. -/
def attributeNames : List String :=
  ["aria-controls", "aria-hidden", "aria-label", "aria-labelledby", "aria-live", "aria-selected",
    "class", "data-client-action", "data-field", "data-filter-bound", "data-filter-field",
    "data-filter-type", "data-icon", "data-index", "data-lazy-state", "data-pattern", "data-record",
    "data-row", "data-state", "data-state-target", "data-strata-component", "data-strata-empty",
    "data-strata-filters", "data-strata-pagination", "data-strata-results", "data-strata-status",
    "data-strata-summary", "disabled", "hidden", "id", "max", "min", "multiple", "placeholder",
    "role", "step", "type", "value"]

end Structure

namespace Component

/-- The names of the tags in a component's markup: fixed ones and those of its content. -/
def TagName (component : Component) (name : String) : Prop :=
  name ∈ Structure.tagNames ∨ ∃ state ∈ component.states, state.content.TagName name

/-- The names of the attributes in a component's markup: fixed ones, those of its content, custom
attributes and those that hold the values of fields. -/
def AttributeName (component : Component) (name : String) : Prop :=
  name ∈ Structure.attributeNames ∨
    (∃ state ∈ component.states, state.content.AttributeName name) ∨
    (Structure.isCustomAttribute name = true ∧ name ∈ component.options.customAttributes.keys) ∨
    ∃ data field, component.data = some data ∧ field ∈ data.effectiveSchema ∧
      Structure.rowAttribute? field.name = some name

/-- Trusted markup in the content of a panel, at any depth. -/
def PanelMarkup (component : Component) (s : String) : Prop :=
  component.pattern.usesStates = true ∧
    ∃ state ∈ component.states, Content.Within (.markup s) state.content

/-- What the template for rows makes of a record, where the rows are in the markup. -/
def RowMarkup (component : Component) (s : String) : Prop :=
  component.serverMode = true ∧ ∃ data template record, component.data = some data ∧
    data.options.itemTemplate = some template ∧ record ∈ data.items ∧
      s = (RowTemplate.ofText template).fill record

end Component

theorem isAttributeChar_of_toLower {c : Char} (h : isAttributeChar c.toLower = true) :
    isAttributeChar c = true := by
  rcases Text.toLower_cases c with hsame | ⟨hupper, -⟩
  · rwa [hsame] at h
  · -- An upper-case letter is a letter, so it needs no help from the lower-case one.
    have hletter : c.isAlpha = true := Bool.or_eq_true_iff.mpr (.inl hupper)
    have halnum : c.isAlphanum = true := Bool.or_eq_true_iff.mpr (.inl hletter)
    simp only [isAttributeChar, halnum, Bool.true_or]

theorem isAttributeName_iff {name : String} :
    isAttributeName name = true ↔ name.toList ≠ [] ∧ ∀ c ∈ name.toList, isAttributeChar c = true := by
  simp [isAttributeName]

theorem isAttributeName_of_asciiLower {name : String}
    (h : isAttributeName (Text.asciiLower name) = true) : isAttributeName name = true := by
  rw [isAttributeName_iff, Text.asciiLower, String.toList_ofList] at h
  refine isAttributeName_iff.mpr ⟨fun hnil => h.1 (by rw [hnil]; rfl), ?_⟩
  intro c hc
  exact isAttributeChar_of_toLower (h.2 c.toLower (List.mem_map_of_mem hc))

theorem isAttributeName_of_rowAttribute? {field name : String}
    (h : Structure.rowAttribute? field = some name) : isAttributeName name = true := by
  obtain ⟨hvalid, hsame⟩ := Option.ite_none_right_eq_some.mp h
  obtain rfl := Option.some.inj hsame
  simp only [Bool.and_eq_true, List.all_eq_true] at hvalid
  refine isAttributeName_iff.mpr ⟨by simp, ?_⟩
  intro c hc
  rw [String.toList_append, List.mem_append] at hc
  rcases hc with hc | hc
  · have hall : "data-".toList.all isAttributeChar = true := by decide
    exact List.all_eq_true.mp hall c hc
  · have hchar := hvalid.1.2 c hc
    simp only [isAttributeChar, hchar, Bool.true_or]

/-- The names of a component's tags can be tags. -/
theorem Component.TagName.isTagName {component : Component} {name : String}
    (h : component.TagName name) : isTagName name = true := by
  rcases h with hfixed | ⟨state, -, hname⟩
  · have hall : Structure.tagNames.all LiveMarkup.isTagName = true := by decide
    exact List.all_eq_true.mp hall name hfixed
  · exact hname.1

/-- The names of a component's attributes can be attributes. -/
theorem Component.AttributeName.isAttributeName {component : Component} {name : String}
    (h : component.AttributeName name) : isAttributeName name = true := by
  rcases h with hfixed | ⟨state, -, hname⟩ | ⟨hcustom, -⟩ | ⟨data, field, -, -, hrow⟩
  · have hall : Structure.attributeNames.all LiveMarkup.isAttributeName = true := by decide
    exact List.all_eq_true.mp hall name hfixed
  · exact hname.1
  · simp only [Structure.isCustomAttribute, Bool.and_eq_true] at hcustom
    exact isAttributeName_of_asciiLower hcustom.1.1
  · exact isAttributeName_of_rowAttribute? hrow

/-! ## Parts of the markup -/

namespace Structure

open Markup

/-- Attributes with names that a component has for them. -/
def Named (component : Component) (entries : List Attribute) : Prop :=
  ∀ entry ∈ entries, component.AttributeName entry.1

/-- A tree with names that a component has for its tags and attributes, and with such trusted
markup. -/
def Built (component : Component) (raw : String → Prop) (tree : Markup) : Prop :=
  tree.Over component.TagName component.AttributeName raw

section Parts

variable {component : Component} {theme : Theme} {raw : String → Prop}

theorem named_fixed {entries : List Attribute}
    (h : (entries.map Prod.fst).all attributeNames.contains = true) : Named component entries := by
  intro entry member
  have hfixed := List.all_eq_true.mp h entry.1 (List.mem_map_of_mem member)
  exact .inl (List.contains_iff_mem.mp hfixed)

theorem Named.append {entries more : List Attribute} (h : Named component entries)
    (hmore : Named component more) : Named component (entries ++ more) :=
  List.forall_mem_append.mpr ⟨h, hmore⟩

theorem named_classAttr (classes : List String) : Named component (classAttr classes) := by
  rw [classAttr]
  split
  · exact named_fixed rfl
  · exact named_fixed rfl

theorem built_tag {name : String} {entries : List Attribute} {children : List Markup}
    (hname : tagNames.contains name = true) (hentries : Named component entries)
    (hchildren : ∀ child ∈ children, Built component raw child) :
    Built component raw (.tag name entries children) :=
  .tag (.inl (List.contains_iff_mem.mp hname)) hentries hchildren

theorem built_text (s : String) : ∀ child ∈ [Markup.text s], Built component raw child := by
  intro child member
  rw [List.mem_singleton.mp member]
  exact .text s

theorem built_nil : ∀ child ∈ ([] : List Markup), Built component raw child := by
  intro child member
  cases member

/-- All the names that a component has can be names, which is what a reader of tags asks for. -/
theorem Built.valid {tree : Markup} (h : Built component raw tree) :
    tree.Over (isTagName · = true) (isAttributeName · = true) raw := by
  apply h.mono
  · intro name hname
    exact hname.isTagName
  · intro name hname
    exact hname.isAttributeName
  · intro s hraw
    exact hraw

/-! ### States -/

theorem built_tab (id : String) (active : Bool) (state : State) :
    Built component raw (tab id theme active state) := by
  refine built_tag rfl ?_ ?_
  · apply Named.append (.append (.append (named_fixed rfl) (named_classAttr _)) (named_fixed rfl))
    cases state.disabled <;> exact named_fixed rfl
  · refine List.forall_mem_append.mpr ⟨?_, built_text _⟩
    intro child member
    obtain ⟨icon, -, rfl⟩ := List.mem_map.mp member
    exact built_tag rfl (named_fixed rfl) built_nil

theorem built_content {state : State} (hstate : state ∈ component.states)
    (h : ∀ s, Content.Within (.markup s) state.content → raw s) :
    Built component raw state.content.tree := by
  refine (Content.over_tree state.content).mono ?_ ?_ h
  · rintro name (rfl | hname)
    · exact .inl (by decide)
    · exact .inr ⟨state, hstate, hname⟩
  · intro name hname
    exact .inr (.inl ⟨state, hstate, hname⟩)

theorem built_panel (id : String) (several lazy active : Bool) {state : State}
    (hstate : state ∈ component.states)
    (h : ∀ s, Content.Within (.markup s) state.content → raw s) :
    Built component raw (panel id theme several lazy active state) := by
  refine built_tag rfl ?_ ?_
  · refine .append (.append
      (.append (.append (named_fixed rfl) (named_classAttr _)) (named_fixed rfl)) ?_) ?_
    · cases several <;> exact named_fixed rfl
    · cases active <;> exact named_fixed rfl
  · intro child member
    rw [List.mem_singleton.mp member]
    split
    · refine built_tag rfl (named_fixed rfl) ?_
      intro child member
      rw [List.mem_singleton.mp member]
      exact built_content hstate h
    · exact built_content hstate h

theorem built_states
    (h : ∀ state ∈ component.states, ∀ s, Content.Within (.markup s) state.content → raw s) :
    ∀ tree ∈ states component theme, Built component raw tree := by
  refine List.forall_mem_append.mpr ⟨?_, ?_⟩
  · split
    · intro tree member
      rw [List.mem_singleton.mp member]
      refine built_tag rfl ((named_classAttr _).append (named_fixed rfl)) ?_
      intro child hchild
      obtain ⟨state, -, rfl⟩ := List.mem_map.mp hchild
      exact built_tab _ _ _
    · exact built_nil
  · intro tree member
    obtain ⟨state, hstate, rfl⟩ := List.mem_map.mp member
    exact built_panel _ _ _ _ hstate (h state hstate)

/-! ### Data -/

theorem built_choice (value text : String) : Built component raw (choice value text) :=
  built_tag rfl (named_fixed rfl) (built_text text)

theorem named_controlAttributes (field : Field) :
    Named component (controlAttributes theme field) :=
  (named_classAttr _).append (named_fixed rfl)

theorem built_boundInput (field : Field) (range : FieldRange) (which : String) :
    Built component raw (boundInput theme field range which) :=
  built_tag rfl ((named_controlAttributes field).append (named_fixed rfl)) built_nil

theorem built_controls {field : Field} {inputs : List Markup}
    (h : controls theme field = some inputs) : ∀ tree ∈ inputs, Built component raw tree := by
  have hchoices : ∀ child ∈ field.choices.map fun c => choice c.value c.label,
      Built component raw child := by
    intro child member
    obtain ⟨c, -, rfl⟩ := List.mem_map.mp member
    exact built_choice _ _
  have hattributes : Named component (controlAttributes theme field) :=
    named_controlAttributes field
  unfold controls at h
  cases hkind : field.kind with
  | text =>
    rw [hkind] at h
    obtain rfl := Option.some.inj h
    exact List.forall_mem_singleton.mpr
      (built_tag rfl (hattributes.append (named_fixed rfl)) built_nil)
  | select =>
    rw [hkind] at h
    obtain rfl := Option.some.inj h
    exact List.forall_mem_singleton.mpr (built_tag rfl hattributes
      (List.forall_mem_cons.mpr ⟨built_choice _ _, hchoices⟩))
  | multiselect =>
    rw [hkind] at h
    obtain rfl := Option.some.inj h
    exact List.forall_mem_singleton.mpr
      (built_tag rfl (hattributes.append (named_fixed rfl)) hchoices)
  | boolean =>
    rw [hkind] at h
    obtain rfl := Option.some.inj h
    refine List.forall_mem_singleton.mpr (built_tag rfl hattributes ?_)
    simp only [List.forall_mem_cons]
    exact ⟨built_choice _ _, built_choice _ _, built_choice _ _, built_nil⟩
  | range =>
    rw [hkind] at h
    obtain ⟨range, -, rfl⟩ := Option.map_eq_some_iff.mp h
    simp only [List.forall_mem_cons]
    exact ⟨built_boundInput field range _, built_boundInput field range _, built_nil⟩
  | unknown =>
    rw [hkind] at h
    cases h

theorem built_filter {field : Field} {tree : Markup} (h : filter theme field = some tree) :
    Built component raw tree := by
  obtain ⟨inputs, hinputs, rfl⟩ := Option.map_eq_some_iff.mp h
  refine built_tag rfl (named_classAttr _) (List.forall_mem_cons.mpr ⟨?_, built_controls hinputs⟩)
  exact built_tag rfl (named_fixed rfl) (built_text _)

theorem built_searchBox : Built component raw (searchBox theme) := by
  apply built_tag rfl _ built_nil
  exact .append (.append (named_fixed rfl) (named_classAttr _)) (named_fixed rfl)

theorem built_cell (record : Fields) (field : Field) : Built component raw (cell record field) :=
  built_tag rfl (named_fixed rfl) (built_text _)

theorem named_row {data : Dataset} (hdata : component.data = some data) (template : Option String)
    (index : Nat) (record : Fields) :
    Named component (row theme data.effectiveSchema template index record).attributes := by
  refine (((named_classAttr _).append (named_fixed rfl)).append ?_).append (named_fixed rfl)
  intro entry member
  obtain ⟨field, hfield, hentry⟩ := List.mem_filterMap.mp member
  obtain ⟨name, hname, hentry⟩ := Option.bind_eq_some_iff.mp hentry
  obtain ⟨value, -, rfl⟩ := Option.map_eq_some_iff.mp hentry
  exact .inr (.inr (.inr ⟨data, field, hdata, hfield, hname⟩))

theorem built_row {data : Dataset} (hdata : component.data = some data) {template : Option String}
    (index : Nat) {record : Fields}
    (h : ∀ text, template = some text → raw ((RowTemplate.ofText text).fill record)) :
    Built component raw (row theme data.effectiveSchema template index record) := by
  refine built_tag rfl (named_row hdata template index record) ?_
  intro child member
  cases template with
  | some text =>
    rw [List.mem_singleton.mp member]
    exact .trusted (h text rfl)
  | none =>
    obtain ⟨field, -, rfl⟩ := List.mem_map.mp member
    exact built_cell record field

theorem built_rows {given : Dataset} (hdata : component.data = some given)
    (hserver : component.serverMode = true) (h : ∀ s, component.RowMarkup s → raw s) :
    ∀ tree ∈ rows theme given, Built component raw tree := by
  intro tree member
  obtain ⟨⟨record, index⟩, hrecord, rfl⟩ := List.mem_map.mp member
  have hheld : record ∈ given.items := (List.mem_zipIdx' hrecord).2 ▸ List.getElem_mem _
  exact built_row hdata index fun text htext =>
    h _ ⟨hserver, given, text, record, hdata, htext, hheld, rfl⟩

theorem named_results (given : Dataset) :
    Named component (results component theme given).attributes :=
  .append (.append (named_fixed rfl) (named_classAttr _)) (named_fixed rfl)

theorem built_data {given : Dataset} (hdata : component.data = some given)
    (h : ∀ s, component.RowMarkup s → raw s) :
    ∀ tree ∈ data component theme given, Built component raw tree := by
  have hresults : Built component raw (results component theme given) := by
    refine built_tag rfl (named_results given) ?_
    split
    · rename_i hserver
      exact built_rows hdata hserver h
    · exact built_nil
  have hfilters : ∀ tree ∈ (if given.options.search then [searchBox theme] else []) ++
      given.effectiveSchema.filterMap (filter theme), Built component raw tree := by
    refine List.forall_mem_append.mpr ⟨?_, ?_⟩
    · split
      · exact List.forall_mem_singleton.mpr built_searchBox
      · exact built_nil
    · intro tree member
      obtain ⟨field, -, htree⟩ := List.mem_filterMap.mp member
      exact built_filter htree
  refine List.forall_mem_append.mpr ⟨?_, ?_⟩
  · simp only [List.forall_mem_cons]
    refine ⟨?_, ?_, hresults, built_nil⟩
    · exact built_tag rfl ((named_classAttr _).append (named_fixed rfl)) hfilters
    · exact built_tag rfl ((named_classAttr _).append (named_fixed rfl)) (built_text _)
  · split
    · exact List.forall_mem_singleton.mpr
        (built_tag rfl ((named_classAttr _).append (named_fixed rfl)) built_nil)
    · exact built_nil

/-! ### Whole components -/

theorem built_placeholder : ∀ tree ∈ placeholder component theme, Built component raw tree := by
  unfold placeholder
  split
  · exact List.forall_mem_singleton.mpr
      (built_tag rfl ((named_classAttr _).append (named_fixed rfl)) built_nil)
  · exact List.forall_mem_singleton.mpr
      (built_tag rfl ((named_classAttr _).append (named_fixed rfl)) built_nil)
  · exact built_nil

theorem named_rootAttributes : Named component (rootAttributes component theme) := by
  apply Named.append (.append (.append (named_fixed rfl) (named_classAttr _)) (named_fixed rfl))
  intro entry member
  obtain ⟨given, hgiven, rfl⟩ := List.mem_map.mp member
  obtain ⟨hentry, hcustom⟩ := List.mem_filter.mp hgiven
  exact .inr (.inr (.inl ⟨hcustom, List.mem_map_of_mem hentry⟩))

/-- The markup of a component has only names that the component has for them, and only the trusted
markup of its panels and its rows. -/
theorem built_root (hpanels : ∀ s, component.PanelMarkup s → raw s)
    (hrows : ∀ s, component.RowMarkup s → raw s) :
    Built component raw (root component theme) := by
  refine built_tag rfl named_rootAttributes (List.forall_mem_append.mpr
    ⟨List.forall_mem_append.mpr ⟨?_, ?_⟩, built_placeholder⟩)
  · split
    · rename_i huses
      exact built_states fun state hstate s hwithin => hpanels s ⟨huses, state, hstate, hwithin⟩
    · exact built_nil
  · split
    · intro tree member
      obtain ⟨given, hgiven, htree⟩ := List.mem_flatMap.mp member
      have hdata : component.data = some given := Option.mem_toList.mp hgiven
      exact built_data hdata hrows tree htree
    · exact built_nil

end Parts

/-! ## Whole components read back -/

/-- Whether a state is the one that starts active. -/
def startsActive (component : Component) (state : State) : Bool :=
  component.initialState.map State.id == some state.id

/-- What the panel of a state is read back as: its content, inside a template while it is left
there. -/
def panelNode (component : Component) (theme : Theme) (state : State) : Node :=
  .element "div"
    (panel component.id theme (decide (1 < component.states.length)) (lazyPanels component)
      (startsActive component state) state).attributes
    (if lazyPanels component && !startsActive component state then
      [.element "template" [flag "data-lazy-state"] state.content.nodes]
    else state.content.nodes)

theorem node_div (entries : List Attribute) (children : List Markup) :
    (Markup.tag "div" entries children).node =
      .element "div" entries (Node.merge (children.map Markup.node)) := by
  rw [Markup.node, Markup.nodes_eq_map, if_neg (by decide)]

/-- The content of a panel, in a template or not. -/
theorem merge_panelBody (waits : Bool) (content : Content) :
    Node.merge ([if waits then .tag "template" [flag "data-lazy-state"] [content.tree]
        else content.tree].map Markup.node) =
      if waits then [.element "template" [flag "data-lazy-state"] content.nodes]
      else content.nodes := by
  have hcontent : Node.merge (Markup.nodes [content.tree]) = content.nodes := by
    rw [Markup.nodes_eq_map, List.map_singleton, Content.node_tree]
    rfl
  cases waits with
  | true => exact congrArg (fun nodes => [Node.element "template" _ nodes]) hcontent
  | false => rwa [Markup.nodes_eq_map] at hcontent

theorem node_panel (component : Component) (theme : Theme) (state : State) :
    (panel component.id theme (decide (1 < component.states.length)) (lazyPanels component)
      (startsActive component state) state).node = panelNode component theme state := by
  rw [panel, node_div, merge_panelBody]
  rfl

/-- The panels stand behind the tabs, one for each state. -/
theorem nodes_states (component : Component) (theme : Theme) :
    ∃ tabs, (states component theme).map Markup.node =
      tabs ++ component.states.map (panelNode component theme) := by
  refine ⟨_, (List.map_append ..).trans (congrArg _ ?_)⟩
  rw [List.map_map]
  refine List.map_congr_left ?_
  intro state _
  exact node_panel component theme state

/-- The parts of a component are elements, so no texts in them can join. -/
theorem isElement_parts (component : Component) (theme : Theme) :
    (∀ tree ∈ states component theme, tree.node.isElement = true) ∧
      (∀ given, ∀ tree ∈ data component theme given, tree.node.isElement = true) ∧
      ∀ tree ∈ placeholder component theme, tree.node.isElement = true := by
  refine ⟨?_, ?_, ?_⟩
  · refine List.forall_mem_append.mpr ⟨?_, ?_⟩
    · split
      · exact List.forall_mem_singleton.mpr rfl
      · simp
    · intro tree member
      obtain ⟨state, -, rfl⟩ := List.mem_map.mp member
      rfl
  · intro given
    refine List.forall_mem_append.mpr ⟨?_, ?_⟩
    · simp only [List.forall_mem_cons]
      exact ⟨rfl, rfl, rfl, by simp⟩
    · split
      · exact List.forall_mem_singleton.mpr rfl
      · simp
  · unfold placeholder
    split
    · exact List.forall_mem_singleton.mpr rfl
    · exact List.forall_mem_singleton.mpr rfl
    · simp

theorem isElement_of_mem_root {component : Component} {theme : Theme} {tree : Markup}
    (member : tree ∈ (root component theme).children) : tree.node.isElement = true := by
  obtain ⟨hstates, hdata, hplaceholder⟩ := isElement_parts component theme
  rcases List.mem_append.mp member with htree | htree
  · rcases List.mem_append.mp htree with htree | htree
    · split at htree
      · exact hstates tree htree
      · cases htree
    · split at htree
      · obtain ⟨given, -, htree⟩ := List.mem_flatMap.mp htree
        exact hdata given tree htree
      · cases htree
  · exact hplaceholder tree htree

theorem node_root (component : Component) (theme : Theme) :
    (root component theme).node = .element "div" (rootAttributes component theme)
      ((if component.pattern.usesStates then states component theme else []).map Markup.node
        ++ ((if component.pattern.usesData then
            component.data.toList.flatMap (data component theme) else [])
          ++ placeholder component theme).map Markup.node) := by
  rw [root, node_div, Node.merge_eq_self, List.append_assoc, List.map_append]
  -- Merging changes nothing, since every part is an element.
  intro node member
  obtain ⟨tree, htree, rfl⟩ := List.mem_map.mp member
  exact isElement_of_mem_root htree

/-- The markup of a component without trusted markup is read as one element, which says what the
markup says. Its names are names that the component has for tags and attributes, so nothing else of
the component is found but in texts and attribute values; and the panels of the states are among its
children, with their content. -/
theorem read?_root (component : Component) (theme : Theme)
    (hcontent : ∀ state ∈ component.states, state.content.Untrusting)
    (htemplate : ∀ data, component.data = some data → data.options.itemTemplate = none) :
    ∃ children,
      TagReader.read? (root component theme).render =
        some (.element "div" (rootAttributes component theme) children) ∧
      (root component theme).node = .element "div" (rootAttributes component theme) children ∧
      (Node.element "div" (rootAttributes component theme) children).Over component.TagName
        component.AttributeName ∧
      (component.pattern.usesStates = true → ∃ before after, children =
        before ++ component.states.map (panelNode component theme) ++ after) := by
  have hbuilt : Built component (fun _ => False) (root component theme) := by
    apply built_root
    · rintro s ⟨-, state, hstate, hwithin⟩
      exact hcontent state hstate s hwithin
    · rintro s ⟨-, data, template, record, hdata, hgiven, -, -⟩
      rw [htemplate data hdata] at hgiven
      cases hgiven
  have hread : TagReader.read? (root component theme).render = some (root component theme).node :=
    TagReader.read?_render hbuilt.valid
  have hover := hbuilt.node
  rw [node_root] at hread hover
  refine ⟨_, hread, node_root component theme, hover, ?_⟩
  intro huses
  obtain ⟨tabs, hpanels⟩ := nodes_states component theme
  rw [if_pos huses, hpanels]
  exact ⟨tabs, _, rfl⟩

/-- A specification with an id, a label and a record that look like markup, and an element with a
name that is none. -/
def menuText : String :=
  "\x7b\"id\":\"<menu>\",\"states\":[" ++
    "\x7b\"id\":\"a\",\"label\":\"<i>\",\"content\":\x7b\"element\":[" ++
      "\"1st\",\x7b\"on click\":\"x\"\x7d,[\"one \",\"& two\"]]\x7d\x7d," ++
    "\x7b\"id\":\"b\",\"content\":\"</div>\"\x7d]," ++
    "\"data\":\x7b\"items\":[\x7b\"name\":\"<b>\"\x7d]\x7d\x7d"

/-- The component of this specification. -/
def menu? : Option Component :=
  (Spec.ofText? menuText).bind fun spec => spec.component.toOption

/-- Its markup is read as one element with both panels in it. -/
theorem read?_root_menu :
    ∃ component children before after, menu? = some component ∧
      (∀ state ∈ component.states, state.content.Untrusting) ∧
      (∀ data, component.data = some data → data.options.itemTemplate = none) ∧
      component.states.map State.id = ["a", "b"] ∧
      TagReader.read? (root component .standard).render =
        some (.element "div" (rootAttributes component .standard) children) ∧
      children = before ++ component.states.map (panelNode component .standard) ++ after := by
  have known : menu?.any (fun component => decide (component.states.map State.id = ["a", "b"]) &&
      component.pattern.usesStates &&
      component.states.all (fun state => decide state.content.Untrusting) &&
      component.data.all fun data => data.options.itemTemplate.isNone) = true := by
    decide +kernel
  obtain ⟨component, given, known⟩ := (Option.any_eq_true _ _).mp known
  simp only [Bool.and_eq_true, decide_eq_true_eq, List.all_eq_true] at known
  obtain ⟨⟨⟨named, uses⟩, contents⟩, plain⟩ := known
  have templates : ∀ data, component.data = some data → data.options.itemTemplate = none := by
    intro data found
    rw [found] at plain
    exact Option.isNone_iff_eq_none.mp plain
  obtain ⟨children, read, -, -, panels⟩ := read?_root component .standard contents templates
  obtain ⟨before, after, parts⟩ := panels uses
  exact ⟨component, children, before, after, given, contents, templates, named, read, parts⟩

end Structure

end LiveMarkup
