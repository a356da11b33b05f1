import LiveMarkup.Proofs.Markup.Decoded

/-!
# Trusted markup read in place

Trusted markup is written as it is, so it decides itself what a reader of tags makes of the markup
around it. A text that closes what it opens, and nothing else, leaves the elements around it open and
adds to the innermost of them, wherever a reader of texts comes upon it, and no other text does
(`TagReader.closes_iff_settles`). So a tag is read as one element if all trusted markup in it closes what
it opens (`TagReader.exists_readsTag`), and an element that lists such tags is read with their elements,
in their order, and with nothing else in it (`TagReader.readAs_listed`).
-/

set_option autoImplicit false

namespace LiveMarkup

namespace TagReader

/-! ## Entities of texts one behind the other -/

theorem unescapeFrom?_append {entity : Option (List Char)} {cs ds : List Char}
    (read : unescapeFrom? entity cs = some ds) (rest : List Char) :
    unescapeFrom? entity (cs ++ rest) = (unescapeFrom? none rest).map (ds ++ ·) := by
  induction cs generalizing entity ds with
  | nil =>
    cases entity with
    | none =>
      obtain rfl := Option.some.inj read
      simp
    | some entity => cases read
  | cons c more ih =>
    cases entity with
    | none =>
      rw [unescapeFrom?] at read
      rw [List.cons_append, unescapeFrom?]
      split
      · rename_i ampersand
        rw [if_pos ampersand] at read
        exact ih read
      · rename_i ordinary
        rw [if_neg ordinary] at read
        obtain ⟨es, hes, rfl⟩ := Option.map_eq_some_iff.mp read
        rw [ih hes, Option.map_map]
        rfl
    | some entity =>
      rw [unescapeFrom?] at read
      rw [List.cons_append, unescapeFrom?]
      split
      · rename_i semicolon
        rw [if_pos semicolon] at read
        obtain ⟨d, known, read⟩ := Option.bind_eq_some_iff.mp read
        obtain ⟨es, hes, rfl⟩ := Option.map_eq_some_iff.mp read
        rw [known, Option.bind_some, ih hes, Option.map_map]
        rfl
      · rename_i within
        rw [if_neg within] at read
        exact ih read

/-- Two texts with whole entities make a text with whole entities. -/
theorem unescape?_append {cs ds more es : List Char} (read : unescape? cs = some ds)
    (next : unescape? more = some es) : unescape? (cs ++ more) = some (ds ++ es) := by
  rw [unescape?] at read next
  rw [unescape?, unescapeFrom?_append read, next, Option.map_some]

/-! ## What a character does to the open elements -/

/-- What a character does to the open elements depends on the mode alone. Which elements are open only
decides whether a closing tag fits the innermost one. -/
inductive Effect (mode : Mode) (c : Char) : Prop where
  | fails (h : ∀ frame outer, step ⟨mode, frame, outer⟩ c = none)
  | passes (next : Mode) (nodes : List Node)
      (h : ∀ frame outer, step ⟨mode, frame, outer⟩ c = some ⟨next, frame.append nodes, outer⟩)
  | enters (tag : OpenTag)
      (h : ∀ frame outer, step ⟨mode, frame, outer⟩ c = some ⟨.text [], ⟨tag, []⟩, frame :: outer⟩)
  | leaves (name : String)
      (h : ∀ frame outer, step ⟨mode, frame, outer⟩ c = close? name frame outer)

/-- A part of an opening tag ends, and so may the tag. -/
theorem effect_of_endPart {mode : Mode} {c : Char} (tag : OpenTag)
    (ends : ∀ frame outer, step ⟨mode, frame, outer⟩ c = endPart tag frame outer c) :
    Effect mode c := by
  by_cases blank : c = ' '
  · exact .passes (.blank tag) [] fun frame outer => (ends frame outer).trans (if_pos blank)
  by_cases bracket : c = '>'
  · have ended : ∀ frame outer, step ⟨mode, frame, outer⟩ c = some (opened tag frame outer) := by
      intro frame outer
      rw [ends, endPart, if_neg blank, if_pos bracket]
    by_cases void : Markup.voidTags.contains tag.name = true
    · refine .passes (.text []) [.element tag.name tag.attributes []] fun frame outer => ?_
      rw [ended, opened, if_pos void]
    · refine .enters tag fun frame outer => ?_
      rw [ended, opened, if_neg void]
  · refine .fails fun frame outer => ?_
    rw [ends, endPart, if_neg blank, if_neg bracket]

theorem effect (mode : Mode) (c : Char) : Effect mode c := by
  cases mode with
  | text reversed =>
    by_cases bracket : c = '<'
    · cases read : unescape? reversed.reverse with
      | none => exact .fails fun frame outer => by simp [step, bracket, read]
      | some cs =>
        exact .passes .bracket (textNodes cs) fun frame outer => by simp [step, bracket, read]
    · exact .passes (.text (c :: reversed)) [] fun frame outer => if_neg bracket
  | bracket =>
    by_cases slash : c = '/'
    · exact .passes (.closing []) [] fun frame outer => if_pos slash
    by_cases letter : c.isAlpha = true
    · exact .passes (.opening [c]) [] fun frame outer => (if_neg slash).trans (if_pos letter)
    · exact .fails fun frame outer => (if_neg slash).trans (if_neg letter)
  | opening reversed =>
    by_cases named : isTagChar c = true
    · exact .passes (.opening (c :: reversed)) [] fun frame outer => if_pos named
    · exact effect_of_endPart ⟨String.ofList reversed.reverse, []⟩ fun frame outer => if_neg named
  | closing reversed =>
    by_cases named : isTagChar c = true
    · exact .passes (.closing (c :: reversed)) [] fun frame outer => if_pos named
    by_cases bracket : c = '>'
    · exact .leaves (String.ofList reversed.reverse) fun frame outer =>
        (if_neg named).trans (if_pos bracket)
    · exact .fails fun frame outer => (if_neg named).trans (if_neg bracket)
  | blank tag =>
    by_cases named : isAttributeChar c = true
    · exact .passes (.key tag [c]) [] fun frame outer => if_pos named
    · exact .fails fun frame outer => if_neg named
  | key tag reversed =>
    by_cases named : isAttributeChar c = true
    · exact .passes (.key tag (c :: reversed)) [] fun frame outer => if_pos named
    by_cases equals : c = '='
    · exact .passes (.equals tag (String.ofList reversed.reverse)) [] fun frame outer =>
        (if_neg named).trans (if_pos equals)
    · exact effect_of_endPart (tag.add (String.ofList reversed.reverse, none)) fun frame outer =>
        (if_neg named).trans (if_neg equals)
  | equals tag name =>
    by_cases quote : c = '"'
    · exact .passes (.value tag name []) [] fun frame outer => if_pos quote
    · exact .fails fun frame outer => if_neg quote
  | value tag name reversed =>
    by_cases quote : c = '"'
    · cases read : unescape? reversed.reverse with
      | none => exact .fails fun frame outer => by simp [step, quote, read]
      | some cs =>
        exact .passes (.quoted (tag.add (name, some (String.ofList cs)))) [] fun frame outer => by
          simp [step, quote, read, Frame.append]
    · exact .passes (.value tag name (c :: reversed)) [] fun frame outer => if_neg quote
  | quoted tag => exact effect_of_endPart tag fun _ _ => rfl

/-- A reader with elements open inside of a frame, innermost first. -/
def State.inside (mode : Mode) (inner : List Frame) (frame : Frame) (outer : List Frame) : State :=
  match inner with
  | [] => ⟨mode, frame, outer⟩
  | top :: more => ⟨mode, top, more ++ frame :: outer⟩

/-- A character that does not leave a frame changes the elements inside of it and adds to it, whatever
frame it is. -/
theorem step_inside {mode : Mode} {inner : List Frame} {frame : Frame} {c : Char} {state : State}
    (stepped : step (.inside mode inner frame []) c = some state) :
    ∃ next above nodes, ∀ other outer, step (.inside mode inner other outer) c =
      some (.inside next above (other.append nodes) outer) := by
  cases effect mode c with
  | fails h =>
    cases inner <;> exact nomatch (h _ _).symm.trans stepped
  | passes next nodes h =>
    cases inner with
    | nil => exact ⟨next, [], nodes, fun other outer => h other outer⟩
    | cons top more => exact ⟨next, top.append nodes :: more, [], fun other outer => h top _⟩
  | enters tag h =>
    refine ⟨.text [], ⟨tag, []⟩ :: inner, [], fun other outer => ?_⟩
    cases inner <;> exact h _ _
  | leaves name h =>
    -- The frame itself stays open: nothing is around it that could go on.
    cases inner with
    | nil => exact nomatch (h _ _).symm.trans stepped
    | cons top more =>
      by_cases fits : top.tag.name = name
      · cases more with
        | nil =>
          exact ⟨.text [], [], [top.element], fun other outer => (h top _).trans (if_pos fits)⟩
        | cons parent below =>
          exact ⟨.text [], parent.append [top.element] :: below, [], fun other outer =>
            (h top _).trans (if_pos fits)⟩
      · have failed : close? name top (more ++ [frame]) = none := by
          cases more <;> exact if_neg fits
        exact nomatch failed.symm.trans ((h _ _).symm.trans stepped)

/-- What is read without leaving a frame, and ends in it, is read so in any other frame. -/
theorem feed_inside {mode next : Mode} {inner : List Frame} {frame last : Frame} {cs : List Char}
    (read : feed (.inside mode inner frame []) cs = some ⟨next, last, []⟩) :
    ∃ added, ∀ other outer,
      feed (.inside mode inner other outer) cs = some ⟨next, other.append added, outer⟩ := by
  induction cs generalizing mode inner frame with
  | nil =>
    cases inner with
    | nil =>
      cases read
      exact ⟨[], fun other outer => rfl⟩
    | cons top more =>
      have none : more ++ [frame] = [] := congrArg State.outer (Option.some.inj read)
      simp at none
  | cons c more ih =>
    rw [feed_cons] at read
    obtain ⟨state, stepped, read⟩ := Option.bind_eq_some_iff.mp read
    obtain ⟨after, above, nodes, steps⟩ := step_inside stepped
    obtain rfl := Option.some.inj ((steps frame []).symm.trans stepped)
    obtain ⟨added, ih⟩ := ih read
    refine ⟨nodes ++ added, fun other outer => ?_⟩
    rw [feed_cons, steps, Option.bind_some, ih, Frame.append_append]

/-! ## Texts that close what they open -/

/-- Whether a reader is in text again, with no element open, and the entities of the text are whole. -/
def State.rests (state : State) : Bool :=
  match state.mode, state.outer with
  | .text reversed, [] => (unescape? reversed.reverse).isSome
  | _, _ => false

/-- Whether a text closes what it opens, and nothing else, with whole tags and entities. -/
def closes (s : String) : Bool := (feed start s.toList).any State.rests

/-- Characters that only add to the open element in which a reader of texts comes upon them, and leave
the reader in a text. -/
def Settles (cs : List Char) : Prop :=
  ∀ pending decoded, unescape? pending.reverse = some decoded →
    ∃ held read added, unescape? held.reverse = some read ∧
      ∀ frame outer, feed ⟨.text pending, frame, outer⟩ cs =
        some ⟨.text held, frame.append added, outer⟩

theorem closes_iff {s : String} :
    closes s = true ↔ ∃ held read frame, feed start s.toList = some ⟨.text held, frame, []⟩ ∧
      unescape? held.reverse = some read := by
  rw [closes, Option.any_eq_true]
  constructor
  · rintro ⟨state, fed, rests⟩
    rw [State.rests] at rests
    split at rests
    · rename_i held mode outer
      obtain ⟨read, whole⟩ := Option.isSome_iff_exists.mp rests
      exact ⟨held, read, state.frame, by rw [fed, ← mode, ← outer], whole⟩
    · cases rests
  · rintro ⟨held, read, frame, fed, whole⟩
    exact ⟨_, fed, by simp [State.rests, whole]⟩

theorem feed_eq_of_plain {cs : List Char} (plain : ∀ c ∈ cs, c ≠ '<') (pending : List Char)
    (frame : Frame) (outer : List Frame) :
    feed ⟨.text pending, frame, outer⟩ cs = some ⟨.text (cs.reverse ++ pending), frame, outer⟩ := by
  rw [← List.append_nil cs, feed_plain plain, List.append_nil]
  rfl

/-- Characters without a bracket settle if their entities are whole. -/
theorem settles_of_plain {cs ds : List Char} (plain : ∀ c ∈ cs, c ≠ '<') (whole : unescape? cs = some ds) :
    Settles cs := by
  intro pending decoded ready
  refine ⟨cs.reverse ++ pending, decoded ++ ds, [], ?_, feed_eq_of_plain plain pending⟩
  rw [List.reverse_append, List.reverse_reverse]
  exact unescape?_append ready whole

/-- A text closes what it opens exactly when it settles wherever a reader of texts comes upon it. -/
theorem closes_iff_settles {s : String} : closes s = true ↔ Settles s.toList := by
  rw [closes_iff]
  constructor
  · rintro ⟨held, read, last, fed, whole⟩ pending decoded ready
    by_cases bracket : '<' ∈ s.toList
    · -- What stands in front of the first bracket joins the pending text; behind it both readers are in
      -- tags of their own.
      obtain ⟨front, back, parts, plain⟩ := List.eq_append_cons_of_mem bracket
      have texts : ∀ c ∈ front, c ≠ '<' := fun c member same => plain (same ▸ member)
      rw [parts] at fed ⊢
      rw [start, feed_plain texts, List.append_nil, feed_cons] at fed
      obtain ⟨state, stepped, fed⟩ := Option.bind_eq_some_iff.mp fed
      obtain ⟨cs, hcs, rfl⟩ := Option.map_eq_some_iff.mp stepped
      rw [List.reverse_reverse] at hcs
      have joined : unescape? (front.reverse ++ pending).reverse = some (decoded ++ cs) := by
        rw [List.reverse_append, List.reverse_reverse]
        exact unescape?_append ready hcs
      have within : feed (.inside .bracket [] (start.frame.append (textNodes cs)) []) back =
          some ⟨.text held, last, []⟩ := fed
      obtain ⟨added, inside⟩ := feed_inside within
      refine ⟨held, read, textNodes (decoded ++ cs) ++ added, whole, fun frame outer => ?_⟩
      rw [feed_plain texts, feed_cons, step_bracket joined, Option.bind_some, ← Frame.append_append]
      exact inside _ outer
    · have texts : ∀ c ∈ s.toList, c ≠ '<' := fun c member same => bracket (same ▸ member)
      obtain ⟨rfl, rfl⟩ : s.toList.reverse = held ∧ start.frame = last := by
        simpa [start] using (feed_eq_of_plain texts [] start.frame []).symm.trans fed
      rw [List.reverse_reverse] at whole
      exact settles_of_plain texts whole pending decoded ready
  · intro settles
    obtain ⟨held, read, added, whole, fed⟩ := settles [] [] rfl
    exact ⟨held, read, _, fed _ _, whole⟩

/-! ## Trees with trusted markup -/

theorem settles_nil : Settles [] := settles_of_plain (by simp) rfl

theorem Settles.append {cs more : List Char} (h : Settles cs) (hmore : Settles more) :
    Settles (cs ++ more) := by
  intro pending decoded ready
  obtain ⟨held, read, nodes, whole, fed⟩ := h pending decoded ready
  obtain ⟨last, final, added, ended, further⟩ := hmore held read whole
  refine ⟨last, final, nodes ++ added, ended, fun frame outer => ?_⟩
  rw [feed_append, fed, Option.bind_some, further, Frame.append_append]

theorem settles_listChars {trees : List Markup} (h : ∀ tree ∈ trees, Settles tree.chars) :
    Settles (Markup.listChars trees) := by
  induction trees with
  | nil => exact settles_nil
  | cons tree more ih =>
    rw [List.forall_mem_cons] at h
    exact h.1.append (ih h.2)

/-- A reader of texts that comes upon a tree adds one node to the open element and goes on behind it,
whatever stands there. -/
def ReadAs (tree : Markup) (node : Node) : Prop :=
  ∀ frame outer rest, feed ⟨.text [], frame, outer⟩ (tree.chars ++ rest) =
    feed ⟨.text [], frame.append [node], outer⟩ rest

/-- A reader that comes upon a tag enters an element with the attributes of the tag, whatever stands in
the tag and behind it. -/
theorem feed_tag {name : String} (hname : isTagName name = true)
    (written : Markup.voidTags.contains name = false) {entries : List Attribute}
    (hentries : ∀ entry ∈ entries, isAttributeName entry.1 = true) (children : List Markup)
    (frame : Frame) (outer : List Frame) (rest : List Char) :
    feed ⟨.text [], frame, outer⟩ ((Markup.tag name entries children).chars ++ rest) =
      feed ⟨.text [], ⟨⟨name, entries⟩, []⟩, frame :: outer⟩
        (Markup.listChars children ++ Markup.closeChars name ++ rest) := by
  have bracket : step ⟨.text [], frame, outer⟩ '<' = some ⟨.bracket, frame, outer⟩ :=
    step_bracket_escapeChars []
  have chars : (Markup.tag name entries children).chars ++ rest =
      '<' :: (name.toList ++ (entries.flatMap Markup.attributeChars ++ '>' ::
        (Markup.listChars children ++ Markup.closeChars name ++ rest))) := by
    rw [Markup.chars, written]
    simp [Markup.openChars]
  rw [chars, feed_cons, bracket, Option.bind_some, feed_open hname hentries, opened, written]
  rfl

section Elements

variable {name : String} (hname : isTagName name = true) {entries : List Attribute}
  (hentries : ∀ entry ∈ entries, isAttributeName entry.1 = true) {children : List Markup}

include hname hentries

/-- A tag is read as an element with what is read between it and its closing tag. -/
theorem readAs_tag (written : Markup.voidTags.contains name = false) {held read : List Char}
    {nodes : List Node} (whole : unescape? held.reverse = some read)
    (fed : ∀ frame outer, feed ⟨.text [], frame, outer⟩ (Markup.listChars children) =
      some ⟨.text held, frame.append nodes, outer⟩) :
    ReadAs (.tag name entries children) (.element name entries (nodes ++ textNodes read)) := by
  intro frame outer rest
  have closing : Markup.closeChars name ++ rest = '<' :: '/' :: (name.toList ++ '>' :: rest) := by
    simp [Markup.closeChars]
  rw [feed_tag hname written hentries, List.append_assoc, feed_append, fed, Option.bind_some, closing,
    feed_cons, step_bracket whole, Option.bind_some, Frame.append_append]
  refine (feed_close hname rfl frame rest).trans ?_
  simp [Frame.element, Frame.append]

/-- An element that lists trees is read with what these are read as, and nothing else in it. -/
theorem readAs_listed (written : Markup.voidTags.contains name = false) {nodes : List Node}
    (h : List.Forall₂ ReadAs children nodes) :
    ReadAs (.tag name entries children) (.element name entries nodes) := by
  have fed : ∀ frame outer, feed ⟨.text [], frame, outer⟩ (Markup.listChars children) =
      some ⟨.text [], frame.append nodes, outer⟩ := by
    induction h with
    | nil => exact fun frame outer => rfl
    | @cons tree node more nodes first _ ih =>
      intro frame outer
      rw [Markup.listChars, first, ih, Frame.append_append]
      rfl
  have read := readAs_tag hname hentries written (show unescape? [].reverse = some [] from rfl) fed
  rwa [textNodes, List.isEmpty_nil, if_pos rfl, List.append_nil] at read

/-- A tag around characters that settle is read as an element. -/
theorem exists_readAs (h : Settles (Markup.listChars children)) :
    ∃ inside, ReadAs (.tag name entries children) (.element name entries inside) := by
  cases written : Markup.voidTags.contains name with
  | true =>
    refine ⟨[], fun frame outer rest => ?_⟩
    have chars : (Markup.tag name entries children).chars ++ rest =
        '<' :: (name.toList ++ (entries.flatMap Markup.attributeChars ++ '>' :: rest)) := by
      rw [Markup.chars, if_pos written]
      simp [Markup.openChars]
    rw [chars, feed_cons, step_bracket rfl, Option.bind_some, feed_open hname hentries, opened,
      if_pos written]
    rfl
  | false =>
    obtain ⟨held, read, nodes, whole, fed⟩ := h [] [] rfl
    exact ⟨_, readAs_tag hname hentries written whole fed⟩

end Elements

/-- A tree that is read as a node settles: what is pending ends with its first bracket. -/
theorem ReadAs.settles {name : String} {entries : List Attribute} {children : List Markup}
    {node : Node} (h : ReadAs (.tag name entries children) node) :
    Settles (Markup.tag name entries children).chars := by
  intro pending decoded ready
  refine ⟨[], [], textNodes decoded ++ [node], rfl, fun frame outer => ?_⟩
  obtain ⟨tail, opens⟩ : ∃ tail, (Markup.tag name entries children).chars = '<' :: tail := by
    rw [Markup.chars]
    split <;> exact ⟨_, rfl⟩
  have read := h (frame.append (textNodes decoded)) outer []
  rw [List.append_nil, opens, feed_cons, step_bracket rfl, Option.bind_some] at read
  rw [opens, feed_cons, step_bracket ready, Option.bind_some, ← Frame.append_append]
  exact read

/-- A tree settles if every name in it can be one and all its trusted markup closes what it opens. -/
theorem settles_of_over {tree : Markup}
    (h : tree.Over (isTagName · = true) (isAttributeName · = true) (closes · = true)) :
    Settles tree.chars := by
  induction h with
  | text s =>
    exact settles_of_plain (fun c member => (ne_of_mem_escapeChars member).1) (unescape?_escapeChars _)
  | trusted closed => exact closes_iff_settles.mp closed
  | tag hname hentries _ ih =>
    obtain ⟨inside, read⟩ := exists_readAs hname hentries (settles_listChars ih)
    exact read.settles

/-- A tag that is read as one element, with its name and its attributes. -/
inductive ReadsTag : Markup → Node → Prop where
  | intro {name : String} {entries : List Attribute} {children : List Markup} {inside : List Node}
      (h : ReadAs (.tag name entries children) (.element name entries inside)) :
      ReadsTag (.tag name entries children) (.element name entries inside)

theorem ReadsTag.readAs {tree : Markup} {node : Node} (h : ReadsTag tree node) : ReadAs tree node := by
  cases h with
  | intro h => exact h

theorem exists_readsTag {tree : Markup} (element : tree.node.isElement = true)
    (h : tree.Over (isTagName · = true) (isAttributeName · = true) (closes · = true)) :
    ∃ node, ReadsTag tree node := by
  cases h with
  | text s => cases element
  | trusted _ => cases element
  | tag hname hentries hchildren =>
    obtain ⟨inside, read⟩ := exists_readAs hname hentries (settles_listChars fun child member =>
      settles_of_over (hchildren child member))
    exact ⟨_, .intro read⟩

theorem exists_readsTags {trees : List Markup}
    (elements : ∀ tree ∈ trees, tree.node.isElement = true)
    (h : ∀ tree ∈ trees,
      tree.Over (isTagName · = true) (isAttributeName · = true) (closes · = true)) :
    ∃ nodes, List.Forall₂ ReadsTag trees nodes := by
  induction trees with
  | nil => exact ⟨[], .nil⟩
  | cons tree more ih =>
    rw [List.forall_mem_cons] at elements h
    obtain ⟨node, first⟩ := exists_readsTag elements.1 h.1
    obtain ⟨nodes, others⟩ := ih elements.2 h.2
    exact ⟨node :: nodes, .cons first others⟩

/-- A text that is one tree is read as its node. -/
theorem ReadAs.read? {tree : Markup} {name : String} {entries : List Attribute} {inside : List Node}
    (h : ReadAs tree (.element name entries inside)) :
    TagReader.read? tree.render = some (.element name entries inside) := by
  have read := h start.frame [] []
  rw [List.append_nil] at read
  rw [TagReader.read?, Markup.render, String.toList_ofList]
  exact congrArg (Option.bind · State.result?) read

end TagReader

end LiveMarkup
