import LiveMarkup.Proofs.Markup.Reader
import LiveMarkup.Proofs.Payload.Extraction

/-!
# Markup read back

Written markup is read back as the tree it was written from, if no trusted markup is in it and every
name can be one (`TagReader.read?_render`): texts and values come back as they were, void elements
have lost their children, and texts that touched have become one. `Markup.Over` says from which names
and which trusted markup a tree is built; a reader finds no other names than those
(`Markup.Over.node`).
-/

set_option autoImplicit false

namespace LiveMarkup

/-! ## What markup is read back as -/

namespace Node

/-- A node in front of others: no text is empty, and no two texts are next to each other. -/
def cons : Node → List Node → List Node
  | .text s, .text t :: rest => .text (s ++ t) :: rest
  | .text s, rest => if s = "" then rest else .text s :: rest
  | .element name attributes children, rest => .element name attributes children :: rest

/-- The nodes with neighbouring texts merged and empty texts dropped. -/
def merge (nodes : List Node) : List Node := nodes.foldr cons []

/-- Whether a node is an element. -/
def isElement : Node → Bool
  | .text _ => false
  | .element _ _ _ => true

theorem merge_cons (node : Node) (rest : List Node) : merge (node :: rest) = cons node (merge rest) :=
  rfl

theorem cons_of_element {node : Node} (h : node.isElement = true) (rest : List Node) :
    cons node rest = node :: rest := by
  cases node with
  | text s => cases h
  | element name attributes children => rfl

/-- Elements stay as they are. -/
theorem merge_eq_self {nodes : List Node} (h : ∀ node ∈ nodes, node.isElement = true) :
    merge nodes = nodes := by
  induction nodes with
  | nil => rfl
  | cons node rest ih =>
    rw [List.forall_mem_cons] at h
    rw [merge_cons, cons_of_element h.1, ih h.2]

theorem cons_empty (nodes : List Node) : cons (.text "") nodes = nodes := by
  rcases nodes with _ | ⟨s | ⟨name, attributes, children⟩, rest⟩ <;> simp [cons]

theorem cons_text_of_element {node : Node} (h : node.isElement = true) (s : String)
    (rest : List Node) : cons (.text s) (node :: rest) = cons (.text s) [] ++ node :: rest := by
  cases node with
  | text t => cases h
  | element name attributes children => by_cases hs : s = "" <;> simp [cons, hs]

theorem cons_text_cons_text (s t : String) (rest : List Node) :
    cons (.text s) (cons (.text t) rest) = cons (.text (s ++ t)) rest := by
  rcases rest with _ | ⟨u | ⟨name, attributes, children⟩, rest⟩
  · by_cases ht : t = ""
    · simp [cons, ht]
    · simp [cons, ht]
  · simp [cons, String.append_assoc]
  · by_cases ht : t = ""
    · simp [cons, ht]
    · simp [cons, ht]

end Node

mutual

/-- What a tree is read back as. -/
def Markup.node : Markup → Node
  | .text s => .text s
  | .trusted s => .text s
  | .tag name attributes children =>
    .element name attributes
      (if Markup.voidTags.contains name then [] else Node.merge (Markup.nodes children))

/-- What each tree is read back as. -/
def Markup.nodes : List Markup → List Node
  | [] => []
  | tree :: rest => tree.node :: Markup.nodes rest

end

theorem Markup.nodes_eq_map (trees : List Markup) : Markup.nodes trees = trees.map Markup.node := by
  induction trees with
  | nil => rfl
  | cons tree rest ih => rw [Markup.nodes, ih, List.map_cons]

/-! ## Names in trees -/

section Names

variable (tags attributes raw : String → Prop)

/-- A tree that has only these names for its tags and attributes and only this trusted markup. -/
inductive Markup.Over : Markup → Prop where
  | text (s : String) : Over (.text s)
  | trusted {s : String} (hraw : raw s) : Over (.trusted s)
  | tag {name : String} {entries : List Attribute} {children : List Markup} (hname : tags name)
      (hentries : ∀ entry ∈ entries, attributes entry.1)
      (hchildren : ∀ child ∈ children, Over child) : Over (.tag name entries children)

/-- What was read has only these names for its elements and attributes. -/
inductive Node.Over : Node → Prop where
  | text (s : String) : Over (.text s)
  | element {name : String} {entries : List Attribute} {children : List Node} (hname : tags name)
      (hentries : ∀ entry ∈ entries, attributes entry.1)
      (hchildren : ∀ child ∈ children, Over child) : Over (.element name entries children)

end Names

variable {tags attributes raw : String → Prop}

theorem Markup.Over.mono {tree : Markup} (h : tree.Over tags attributes raw)
    {moreTags moreAttributes moreRaw : String → Prop} (htags : ∀ name, tags name → moreTags name)
    (hattributes : ∀ name, attributes name → moreAttributes name)
    (htrusted : ∀ s, raw s → moreRaw s) : tree.Over moreTags moreAttributes moreRaw := by
  induction h with
  | text s => exact .text s
  | trusted hraw => exact .trusted (htrusted _ hraw)
  | tag hname hentries _ ih =>
    exact .tag (htags _ hname) (fun entry member => hattributes _ (hentries entry member)) ih

theorem Node.over_merge {nodes : List Node} (h : ∀ node ∈ nodes, node.Over tags attributes) :
    ∀ node ∈ Node.merge nodes, node.Over tags attributes := by
  induction nodes with
  | nil => exact h
  | cons first rest ih =>
    rw [List.forall_mem_cons] at h
    have hrest := ih h.2
    rw [Node.merge_cons]
    -- Merging only ever makes texts, and texts have no names.
    unfold Node.cons
    split
    · rename_i heq
      rw [heq, List.forall_mem_cons] at hrest
      exact List.forall_mem_cons.mpr ⟨.text _, hrest.2⟩
    · split
      · exact hrest
      · exact List.forall_mem_cons.mpr ⟨.text _, hrest⟩
    · exact List.forall_mem_cons.mpr ⟨h.1, hrest⟩

/-- No other names are in what a tree is read back as than it is built from. -/
theorem Markup.Over.node {tree : Markup} (h : tree.Over tags attributes raw) :
    tree.node.Over tags attributes := by
  induction h with
  | text s => exact .text s
  | trusted _ => exact .text _
  | tag hname hentries _ ih =>
    rw [Markup.node]
    refine .element hname hentries ?_
    split
    · simp
    · rw [Markup.nodes_eq_map]
      apply Node.over_merge
      intro node member
      obtain ⟨child, hchild, rfl⟩ := List.mem_map.mp member
      exact ih child hchild

namespace TagReader

/-! ## Texts and values -/

theorem unescapeFrom?_escapeChar (c : Char) (rest : List Char) :
    unescapeFrom? none (Markup.escapeChar c ++ rest) =
      (unescapeFrom? none rest).map (c :: ·) := by
  by_cases h : c ∈ ['&', '<', '>', '"', '\'']
  · simp only [List.mem_cons, List.not_mem_nil, or_false] at h
    rcases h with rfl | rfl | rfl | rfl | rfl <;> rfl
  · simp only [List.mem_cons, List.not_mem_nil, or_false, not_or] at h
    obtain ⟨hamp, hless, hgreater, hquote, hsingle⟩ := h
    rw [Markup.escapeChar, if_neg hamp, if_neg hless, if_neg hgreater, if_neg hquote,
      if_neg hsingle, List.singleton_append, unescapeFrom?, if_neg hamp]

/-- Escaped characters stand for themselves. -/
theorem unescape?_escapeChars (cs : List Char) : unescape? (Markup.escapeChars cs) = some cs := by
  induction cs with
  | nil => rfl
  | cons c rest ih =>
    rw [unescape?] at ih
    rw [unescape?, Markup.escapeChars, List.flatMap_cons, unescapeFrom?_escapeChar,
      ← Markup.escapeChars, ih]
    rfl

theorem ne_of_mem_escapeChars {cs : List Char} {c : Char} (h : c ∈ Markup.escapeChars cs) :
    c ≠ '<' ∧ c ≠ '"' := by
  have hescape : c ∈ (Markup.escape (String.ofList cs)).toList := by
    rwa [Markup.escape, String.toList_ofList, String.toList_ofList]
  have hplain := Markup.not_mem_of_mem_escape hescape
  simp only [List.mem_cons, List.not_mem_nil, or_false, not_or] at hplain
  exact ⟨hplain.1, hplain.2.2⟩

variable {frame : Frame} {outer : List Frame}

/-- Characters without a bracket are text. -/
theorem feed_plain {cs : List Char} (plain : ∀ c ∈ cs, c ≠ '<') (pending rest : List Char) :
    feed ⟨.text pending, frame, outer⟩ (cs ++ rest) =
      feed ⟨.text (cs.reverse ++ pending), frame, outer⟩ rest := by
  have hstep : ∀ reversed c, c ≠ '<' → step ⟨.text reversed, frame, outer⟩ c =
      some ⟨.text (c :: reversed), frame, outer⟩ := by
    intro reversed c hc
    exact if_neg hc
  exact feed_collect hstep plain pending rest

theorem feed_text (pending cs rest : List Char) :
    feed ⟨.text (Markup.escapeChars pending).reverse, frame, outer⟩
        (Markup.escapeChars cs ++ rest) =
      feed ⟨.text (Markup.escapeChars (pending ++ cs)).reverse, frame, outer⟩ rest := by
  rw [feed_plain fun c hc => (ne_of_mem_escapeChars hc).1, ← List.reverse_append,
    Markup.escapeChars, Markup.escapeChars, Markup.escapeChars, List.flatMap_append]

/-- The bracket of the next tag ends a text. -/
theorem step_bracket {pending decoded : List Char} (read : unescape? pending.reverse = some decoded) :
    step ⟨.text pending, frame, outer⟩ '<' =
      some ⟨.bracket, frame.append (textNodes decoded), outer⟩ := by
  rw [step]
  simp only [read, Option.map_some, if_true]

theorem step_bracket_escapeChars (pending : List Char) :
    step ⟨.text (Markup.escapeChars pending).reverse, frame, outer⟩ '<' =
      some ⟨.bracket, frame.append (textNodes pending), outer⟩ :=
  step_bracket (by rw [List.reverse_reverse, unescape?_escapeChars])

/-! ## Opening and closing tags -/

theorem isTagChar_of_isTagName {name : String} (h : isTagName name = true) :
    ∃ c cs, name.toList = c :: cs ∧ c.isAlpha = true ∧ ∀ d ∈ c :: cs, isTagChar d = true := by
  rw [isTagName, Bool.and_eq_true, List.all_eq_true] at h
  cases hname : name.toList with
  | nil =>
    rw [hname] at h
    cases h.1
  | cons c cs =>
    rw [hname] at h
    exact ⟨c, cs, rfl, h.1, h.2⟩

theorem isAttributeChar_of_isAttributeName {name : String} (h : isAttributeName name = true) :
    ∃ c cs, name.toList = c :: cs ∧ ∀ d ∈ c :: cs, isAttributeChar d = true := by
  rw [isAttributeName, Bool.and_eq_true, List.all_eq_true, Bool.not_eq_true'] at h
  cases hname : name.toList with
  | nil =>
    have hempty : name = "" := String.toList_eq_nil_iff.mp hname
    rw [hempty] at h
    cases h.1
  | cons c cs =>
    rw [hname] at h
    exact ⟨c, cs, rfl, h.2⟩

/-- Behind the name of an attribute the reader holds that name. -/
theorem feed_key {name : String} (h : isAttributeName name = true) (tag : OpenTag)
    (rest : List Char) :
    feed ⟨.blank tag, frame, outer⟩ (name.toList ++ rest) =
      feed ⟨.key tag name.toList.reverse, frame, outer⟩ rest := by
  obtain ⟨c, cs, hname, hchars⟩ := isAttributeChar_of_isAttributeName h
  rw [List.forall_mem_cons] at hchars
  have hfirst : step ⟨.blank tag, frame, outer⟩ c = some ⟨.key tag [c], frame, outer⟩ :=
    if_pos hchars.1
  have hstep : ∀ reversed d, isAttributeChar d = true →
      step ⟨.key tag reversed, frame, outer⟩ d = some ⟨.key tag (d :: reversed), frame, outer⟩ := by
    intro reversed d hd
    exact if_pos hd
  rw [hname, List.cons_append, feed_cons, hfirst, Option.bind_some, feed_collect hstep hchars.2,
    List.reverse_cons]

/-- The value of an attribute is read to the quotation mark behind it. -/
theorem feed_value (tag : OpenTag) (name value : String) (rest : List Char) :
    feed ⟨.equals tag name, frame, outer⟩
        ('"' :: (Markup.escapeChars value.toList ++ '"' :: rest)) =
      feed ⟨.quoted (tag.add (name, some value)), frame, outer⟩ rest := by
  have hopen : step ⟨.equals tag name, frame, outer⟩ '"' =
      some ⟨.value tag name [], frame, outer⟩ := rfl
  have hstep : ∀ reversed c, c ≠ '"' → step ⟨.value tag name reversed, frame, outer⟩ c =
      some ⟨.value tag name (c :: reversed), frame, outer⟩ := by
    intro reversed c hc
    exact if_neg hc
  have hclose : step ⟨.value tag name (Markup.escapeChars value.toList).reverse, frame, outer⟩ '"' =
      some ⟨.quoted (tag.add (name, some value)), frame, outer⟩ := by
    have hread : unescape? (Markup.escapeChars value.toList).reverse.reverse =
        some value.toList := by
      rw [List.reverse_reverse, unescape?_escapeChars]
    rw [step]
    simp only [hread, Option.map_some, if_true, String.ofList_toList]
  rw [feed_cons, hopen, Option.bind_some,
    feed_collect hstep fun c hc => (ne_of_mem_escapeChars hc).2, List.append_nil, feed_cons, hclose,
    Option.bind_some]

/-- Wherever a part of an opening tag ends, attributes and the closing bracket may follow. -/
theorem feed_attributes {mode : Mode} {tag : OpenTag}
    (hmode : ∀ c, c = ' ' ∨ c = '>' → step ⟨mode, frame, outer⟩ c = endPart tag frame outer c)
    {entries : List Attribute} (hentries : ∀ entry ∈ entries, isAttributeName entry.1 = true)
    (rest : List Char) :
    feed ⟨mode, frame, outer⟩ (entries.flatMap Markup.attributeChars ++ '>' :: rest) =
      feed (opened ⟨tag.name, tag.attributes ++ entries⟩ frame outer) rest := by
  -- The reader holds the attributes read so far, and a flag ends where a quoted value does.
  induction entries generalizing mode tag with
  | nil =>
    rw [List.flatMap_nil, List.nil_append, feed_cons, hmode '>' (.inr rfl), List.append_nil]
    rfl
  | cons entry more ih =>
    rw [List.forall_mem_cons] at hentries
    obtain ⟨name, value⟩ := entry
    have hblank : step ⟨mode, frame, outer⟩ ' ' = some ⟨.blank tag, frame, outer⟩ :=
      hmode ' ' (.inl rfl)
    have hadd : ∀ value, (⟨(tag.add (name, value)).name,
        (tag.add (name, value)).attributes ++ more⟩ : OpenTag) =
          ⟨tag.name, tag.attributes ++ (name, value) :: more⟩ := by
      intro value
      simp [OpenTag.add]
    have hname : String.ofList name.toList.reverse.reverse = name := by
      rw [List.reverse_reverse, String.ofList_toList]
    cases value with
    | none =>
      have hflag : ∀ c, c = ' ' ∨ c = '>' →
          step ⟨.key tag name.toList.reverse, frame, outer⟩ c =
            endPart (tag.add (name, none)) frame outer c := by
        rintro c (rfl | rfl)
        · exact congrArg (fun s => endPart (tag.add (s, none)) frame outer ' ') hname
        · exact congrArg (fun s => endPart (tag.add (s, none)) frame outer '>') hname
      rw [List.flatMap_cons, Markup.attributeChars, List.append_assoc, List.cons_append, feed_cons,
        hblank, Option.bind_some, feed_key hentries.1, ih hflag hentries.2, hadd]
    | some value =>
      have hequals : step ⟨.key tag name.toList.reverse, frame, outer⟩ '=' =
          some ⟨.equals tag name, frame, outer⟩ :=
        congrArg (fun s => some (⟨.equals tag s, frame, outer⟩ : State)) hname
      have hquoted : ∀ c, c = ' ' ∨ c = '>' →
          step ⟨.quoted (tag.add (name, some value)), frame, outer⟩ c =
            endPart (tag.add (name, some value)) frame outer c := fun _ _ => rfl
      simp only [List.flatMap_cons, Markup.attributeChars, List.append_assoc, List.cons_append,
        List.nil_append]
      rw [feed_cons, hblank, Option.bind_some, feed_key hentries.1, feed_cons, hequals,
        Option.bind_some, feed_value, ih hquoted hentries.2, hadd]

theorem feed_open {name : String} (hname : isTagName name = true) {entries : List Attribute}
    (hentries : ∀ entry ∈ entries, isAttributeName entry.1 = true) (rest : List Char) :
    feed ⟨.bracket, frame, outer⟩
        (name.toList ++ (entries.flatMap Markup.attributeChars ++ '>' :: rest)) =
      feed (opened ⟨name, entries⟩ frame outer) rest := by
  obtain ⟨c, cs, hcs, halpha, hchars⟩ := isTagChar_of_isTagName hname
  rw [List.forall_mem_cons] at hchars
  have hslash : c ≠ '/' := by
    rintro rfl
    cases halpha
  have hfirst : step ⟨.bracket, frame, outer⟩ c = some ⟨.opening [c], frame, outer⟩ :=
    (if_neg hslash).trans (if_pos halpha)
  have hstep : ∀ reversed d, isTagChar d = true →
      step ⟨.opening reversed, frame, outer⟩ d = some ⟨.opening (d :: reversed), frame, outer⟩ := by
    intro reversed d hd
    exact if_pos hd
  have hend : ∀ d, d = ' ' ∨ d = '>' →
      step ⟨.opening name.toList.reverse, frame, outer⟩ d = endPart ⟨name, []⟩ frame outer d := by
    have hwhole : String.ofList name.toList.reverse.reverse = name := by
      rw [List.reverse_reverse, String.ofList_toList]
    rintro d (rfl | rfl)
    · exact congrArg (fun s => endPart ⟨s, []⟩ frame outer ' ') hwhole
    · exact congrArg (fun s => endPart ⟨s, []⟩ frame outer '>') hwhole
  have hread := feed_attributes hend hentries rest
  rw [hcs, List.reverse_cons] at hread
  rw [hcs, List.cons_append, feed_cons, hfirst, Option.bind_some, feed_collect hstep hchars.2, hread,
    List.nil_append]

theorem feed_close {name : String} (hname : isTagName name = true) (hframe : frame.tag.name = name)
    (parent : Frame) (rest : List Char) :
    feed ⟨.bracket, frame, parent :: outer⟩ ('/' :: (name.toList ++ '>' :: rest)) =
      feed ⟨.text [], parent.append [frame.element], outer⟩ rest := by
  obtain ⟨c, cs, hcs, -, hchars⟩ := isTagChar_of_isTagName hname
  have hslash : step ⟨.bracket, frame, parent :: outer⟩ '/' =
      some ⟨.closing [], frame, parent :: outer⟩ := rfl
  have hstep : ∀ reversed d, isTagChar d = true →
      step ⟨.closing reversed, frame, parent :: outer⟩ d =
        some ⟨.closing (d :: reversed), frame, parent :: outer⟩ := by
    intro reversed d hd
    exact if_pos hd
  have hend : step ⟨.closing name.toList.reverse, frame, parent :: outer⟩ '>' =
      some ⟨.text [], parent.append [frame.element], outer⟩ := by
    have hwhole : frame.tag.name = String.ofList name.toList.reverse.reverse := by
      rw [List.reverse_reverse, String.ofList_toList, hframe]
    exact if_pos hwhole
  rw [feed_cons, hslash, Option.bind_some, feed_collect hstep (hcs ▸ hchars), List.append_nil,
    feed_cons, hend, Option.bind_some]

/-! ## Trees -/

theorem Frame.append_append (frame : Frame) (nodes more : List Node) :
    (frame.append nodes).append more = frame.append (nodes ++ more) := by
  simp [Frame.append]

theorem textNodes_eq_cons (cs : List Char) :
    textNodes cs = Node.cons (.text (String.ofList cs)) [] := by
  cases cs with
  | nil => rfl
  | cons c rest => simp [textNodes, Node.cons]

/-- A text, or a tag that is read as its element wherever a tag may start. -/
inductive Reads : Markup → Prop where
  | text (s : String) : Reads (.text s)
  | element {tree : Markup} {tail : List Char} (hchars : tree.chars = '<' :: tail)
      (helement : tree.node.isElement = true)
      (hread : ∀ frame outer rest, feed ⟨.bracket, frame, outer⟩ (tail ++ rest) =
        feed ⟨.text [], frame.append [tree.node], outer⟩ rest) : Reads tree

/-- Trees are read into the open element up to the bracket behind them, whatever text is pending. -/
theorem feed_trees {trees : List Markup} (h : ∀ tree ∈ trees, Reads tree) (pending : List Char)
    (frame : Frame) (outer : List Frame) (rest : List Char) :
    feed ⟨.text (Markup.escapeChars pending).reverse, frame, outer⟩
        (Markup.listChars trees ++ '<' :: rest) =
      feed ⟨.bracket, frame.append (Node.cons (.text (String.ofList pending))
        (Node.merge (Markup.nodes trees))), outer⟩ rest := by
  induction trees generalizing pending frame with
  | nil =>
    rw [Markup.listChars, List.nil_append, feed_cons, step_bracket_escapeChars, Option.bind_some,
      textNodes_eq_cons]
    rfl
  | cons tree more ih =>
    rw [List.forall_mem_cons] at h
    rw [Markup.listChars, List.append_assoc, Markup.nodes, Node.merge_cons]
    cases h.1 with
    | text s =>
      -- The text joins what is pending.
      rw [Markup.chars, feed_text, ih h.2, Markup.node, Node.cons_text_cons_text,
        String.ofList_append, String.ofList_toList]
    | @element _ tail hchars helement hread =>
      -- The tag ends what is pending, and behind its element nothing is.
      have hmore := ih h.2 [] ((frame.append (textNodes pending)).append [tree.node])
      rw [String.ofList_nil, Node.cons_empty, Frame.append_append, Frame.append_append,
        List.append_assoc] at hmore
      rw [hchars, List.cons_append, feed_cons, step_bracket_escapeChars, Option.bind_some, hread,
        Node.cons_of_element helement, Node.cons_text_of_element helement, ← textNodes_eq_cons,
        Frame.append_append]
      exact hmore

/-- A tree without trusted markup in which every name can be one is read back. -/
theorem reads_of_over {tree : Markup}
    (h : tree.Over (isTagName · = true) (isAttributeName · = true) fun _ => False) : Reads tree := by
  induction h with
  | text s => exact .text s
  | trusted hraw => exact hraw.elim
  | @tag name entries children hname hentries _ ih =>
    cases hvoid : Markup.voidTags.contains name with
    | true =>
      have hchars : (Markup.tag name entries children).chars =
          '<' :: (name.toList ++ (entries.flatMap Markup.attributeChars ++ ['>'])) := by
        rw [Markup.chars, if_pos hvoid, Markup.openChars, List.append_assoc]
        rfl
      refine .element hchars rfl ?_
      intro frame outer rest
      simp only [List.append_assoc, List.singleton_append]
      rw [feed_open hname hentries, opened, if_pos hvoid, Markup.node, if_pos hvoid]
    | false =>
      have hcontains := Bool.eq_false_iff.mp hvoid
      have hchars : (Markup.tag name entries children).chars =
          '<' :: (name.toList ++ (entries.flatMap Markup.attributeChars ++ '>' ::
            (Markup.listChars children ++ '<' :: '/' :: (name.toList ++ ['>'])))) := by
        rw [Markup.chars, if_neg hcontains, Markup.openChars, Markup.closeChars]
        simp only [List.append_assoc, List.cons_append, List.nil_append]
      refine .element hchars rfl ?_
      intro frame outer rest
      have hchildren := feed_trees ih [] ⟨⟨name, entries⟩, []⟩ (frame :: outer)
        ('/' :: (name.toList ++ '>' :: rest))
      simp only [List.append_assoc, List.cons_append, List.nil_append]
      rw [feed_open hname hentries, opened, if_neg hcontains]
      refine hchildren.trans ((feed_close hname rfl frame rest).trans ?_)
      rw [String.ofList_nil, Node.cons_empty, Markup.node, if_neg hcontains]
      simp [Frame.element, Frame.append]

/-- Written markup is read back as what the tree says. -/
theorem read?_render {name : String} {entries : List Attribute} {children : List Markup}
    (h : (Markup.tag name entries children).Over (isTagName · = true) (isAttributeName · = true)
      fun _ => False) :
    read? (Markup.tag name entries children).render =
      some (Markup.tag name entries children).node := by
  cases reads_of_over h with
  | @element _ tail hchars _ hread =>
    have hstart : step start '<' = some ⟨.bracket, start.frame, []⟩ := rfl
    have hall := hread start.frame [] []
    rw [List.append_nil] at hall
    rw [read?, Markup.render, String.toList_ofList, hchars, feed_cons, hstart, Option.bind_some, hall]
    rfl

end TagReader

end LiveMarkup
