import LiveMarkup.Proofs.Markup.Decoded

/-!
# Panel content read back

What a reader finds for panel content (`Content.nodes`): names that cannot be a tag have become
`div`, attributes with names that cannot be one are gone, void elements have no children, and texts
that touch are one. The markup of content without trusted markup is read as that
(`Content.node_tree`). All names in the markup of content, and all trusted markup in it, come from
the content (`Content.over_tree`).
-/

set_option autoImplicit false

namespace LiveMarkup

namespace Content

/-- Content that is the outer one or stands in it at some depth. -/
inductive Within (inner : Content) : Content → Prop where
  | refl : Within inner inner
  | child {tag : String} {attributes : StringMap String} {children : List Content}
      {child : Content} (hchild : child ∈ children) (h : Within inner child) :
      Within inner (.element tag attributes children)

/-- Whether no trusted markup is in the content, at any depth. -/
def Untrusting (content : Content) : Prop := ∀ s, ¬ Within (.markup s) content

mutual

/-- Whether trusted markup is in the content. -/
def hasMarkup : Content → Bool
  | .text _ => false
  | .markup _ => true
  | .element _ _ children => anyMarkup children

/-- Whether trusted markup is in one of the contents. -/
def anyMarkup : List Content → Bool
  | [] => false
  | content :: rest => content.hasMarkup || anyMarkup rest

end

theorem anyMarkup_eq_any (contents : List Content) :
    anyMarkup contents = contents.any hasMarkup := by
  induction contents with
  | nil => rfl
  | cons content rest ih => rw [anyMarkup, ih, List.any_cons]

theorem Within.hasMarkup {inner outer : Content} (h : Within inner outer)
    (hinner : inner.hasMarkup = true) : outer.hasMarkup = true := by
  induction h with
  | refl => exact hinner
  | child hchild _ ih =>
    rw [Content.hasMarkup, anyMarkup_eq_any]
    exact List.any_eq_true.mpr ⟨_, hchild, ih⟩

mutual

theorem exists_markup_of_hasMarkup : (content : Content) → content.hasMarkup = true →
    ∃ s, Within (.markup s) content
  | .text _, h => by cases h
  | .markup s, _ => ⟨s, .refl⟩
  | .element _ _ children, h => by
    obtain ⟨child, hchild, s, hwithin⟩ := exists_markup_of_anyMarkup children h
    exact ⟨s, .child hchild hwithin⟩

theorem exists_markup_of_anyMarkup : (contents : List Content) → anyMarkup contents = true →
    ∃ content ∈ contents, ∃ s, Within (.markup s) content
  | [], h => by cases h
  | content :: rest, h => by
    rw [anyMarkup, Bool.or_eq_true] at h
    rcases h with h | h
    · exact ⟨content, List.mem_cons_self, exists_markup_of_hasMarkup content h⟩
    · obtain ⟨later, hlater, hmarkup⟩ := exists_markup_of_anyMarkup rest h
      exact ⟨later, List.mem_cons_of_mem _ hlater, hmarkup⟩

end

theorem untrusting_iff {content : Content} : content.Untrusting ↔ content.hasMarkup = false := by
  constructor
  · intro h
    rw [Bool.eq_false_iff]
    intro hmarkup
    obtain ⟨s, hwithin⟩ := exists_markup_of_hasMarkup content hmarkup
    exact h s hwithin
  · intro h s hwithin
    rw [hwithin.hasMarkup rfl] at h
    cases h

instance (content : Content) : Decidable content.Untrusting :=
  decidable_of_iff (content.hasMarkup = false) untrusting_iff.symm

/-- The name of a tag in the content. -/
def TagName (content : Content) (name : String) : Prop :=
  isTagName name = true ∧ ∃ attributes children, Within (.element name attributes children) content

/-- The name of an attribute in the content. -/
def AttributeName (content : Content) (name : String) : Prop :=
  isAttributeName name = true ∧ ∃ tag attributes children,
    Within (.element tag attributes children) content ∧ name ∈ attributes.keys

mutual

/-- What content is read back as; trusted markup, which nothing is known about, counts as text. -/
def node : Content → Node
  | .text s => .text s
  | .markup s => .text s
  | .element tag attributes children =>
    let name := if isTagName tag then tag else "div"
    .element name
      ((attributes.entries.filter fun entry => isAttributeName entry.1).map fun entry =>
        (entry.1, some entry.2))
      (if Markup.voidTags.contains name then [] else Node.merge (nodesOf children))

/-- What each content is read back as. -/
def nodesOf : List Content → List Node
  | [] => []
  | content :: rest => content.node :: nodesOf rest

end

/-- What content that stands alone in an element is read back as: nothing for an empty text. -/
def nodes (content : Content) : List Node := Node.merge [content.node]

example : nodes (.element "1st" (.ofList [("class", "x"), ("on click", "y")])
      [.text "one ", .text "& two", .element "br" .empty [.text "lost"]]) =
    [.element "div" [("class", some "x")] [.text "one & two", .element "br" [] []]] := by
  rfl

mutual

/-- The markup of content is read back as what the content says. -/
theorem node_tree : (content : Content) → content.tree.node = content.node
  | .text _ => rfl
  | .markup _ => rfl
  | .element tag attributes children => by
    rw [tree, Markup.node, nodes_trees children]
    rfl

theorem nodes_trees : (contents : List Content) → Markup.nodes (trees contents) = nodesOf contents
  | [] => rfl
  | content :: rest => by
    rw [trees, Markup.nodes, nodesOf, node_tree content, nodes_trees rest]

end

/-- The children of content in the outer content are in it as well. -/
theorem Within.of_child {outer : Content} {tag : String} {attributes : StringMap String}
    {children : List Content} {child : Content}
    (h : Within (.element tag attributes children) outer) (hchild : child ∈ children) :
    Within child outer := by
  induction h with
  | refl => exact .child hchild .refl
  | child hinner _ ih => exact .child hinner ih

mutual

/-- The names in the markup of content are valid names that the content gives, or `div`, and its
trusted markup is that of the content. -/
theorem over_tree_of_within {outer : Content} :
    (content : Content) → Within content outer →
      content.tree.Over (fun name => name = "div" ∨ outer.TagName name) outer.AttributeName
        fun s => Within (.markup s) outer
  | .text s, _ => .text s
  | .markup s, hwithin => .trusted hwithin
  | .element tag attributes children, hwithin => by
    rw [tree]
    refine .tag ?_ ?_ ?_
    -- The name is the given one or its replacement.
    · split
      · rename_i hvalid
        exact .inr ⟨hvalid, attributes, children, hwithin⟩
      · exact .inl rfl
    · intro entry member
      obtain ⟨given, hgiven, rfl⟩ := List.mem_map.mp member
      obtain ⟨hentry, hvalid⟩ := List.mem_filter.mp hgiven
      exact ⟨hvalid, tag, attributes, children, hwithin, List.mem_map_of_mem hentry⟩
    · apply over_trees_of_within children
      intro child hchild
      exact hwithin.of_child hchild

theorem over_trees_of_within {outer : Content} :
    (contents : List Content) → (∀ content ∈ contents, Within content outer) →
      ∀ tree ∈ trees contents,
        tree.Over (fun name => name = "div" ∨ outer.TagName name) outer.AttributeName
          fun s => Within (.markup s) outer
  | [], _ => by simp [trees]
  | content :: rest, hwithin => by
    rw [List.forall_mem_cons] at hwithin
    rw [trees]
    exact List.forall_mem_cons.mpr ⟨over_tree_of_within content hwithin.1,
      over_trees_of_within rest hwithin.2⟩

end

theorem over_tree (content : Content) :
    content.tree.Over (fun name => name = "div" ∨ content.TagName name) content.AttributeName
      fun s => Within (.markup s) content :=
  over_tree_of_within content .refl

end Content

end LiveMarkup
