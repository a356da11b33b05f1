import LiveMarkup.Markup.Content

/-!
# A reader of tags

Markup is read back by a strict reader that knows nothing of how it was written: opening tags with
flags and quoted values, closing tags that match, no closing tag for the void tags, and in texts and
values no ampersand but in one of the five entities. It takes one character at a time, with the open
elements on a stack, and the whole text has to be one element.
-/

set_option autoImplicit false

namespace LiveMarkup

/-- What a reader finds: texts, and elements with their attributes and children. -/
inductive Node where
  | text (s : String)
  | element (name : String) (attributes : List Attribute) (children : List Node)

namespace TagReader

/-! ## Entities -/

/-- The entities, by what stands between the ampersand and the semicolon. -/
def entities : List (List Char × Char) :=
  [(['a', 'm', 'p'], '&'), (['l', 't'], '<'), (['g', 't'], '>'), (['q', 'u', 'o', 't'], '"'),
    (['#', '3', '9'], '\'')]

/-- The characters that a text with entities stands for; behind an ampersand, `entity` lists the
characters since then, last one first. -/
def unescapeFrom? : (entity : Option (List Char)) → List Char → Option (List Char)
  | none, [] => some []
  | some _, [] => none
  | none, c :: rest =>
    if c = '&' then unescapeFrom? (some []) rest else (unescapeFrom? none rest).map (c :: ·)
  | some entity, c :: rest =>
    if c = ';' then
      (entities.lookup entity.reverse).bind fun d => (unescapeFrom? none rest).map (d :: ·)
    else unescapeFrom? (some (c :: entity)) rest

/-- The characters that a text with entities stands for; nothing with any other ampersand. -/
def unescape? : List Char → Option (List Char) := unescapeFrom? none

/-! ## Tags -/

/-- An opening tag, or as much of it as was read. -/
structure OpenTag where
  name : String
  attributes : List Attribute

/-- The tag with one more attribute. -/
def OpenTag.add (tag : OpenTag) (entry : Attribute) : OpenTag :=
  { tag with attributes := tag.attributes ++ [entry] }

/-- An element that is still open, with its children so far, last one first. -/
structure Frame where
  tag : OpenTag
  reversed : List Node

/-- The open element with more children. -/
def Frame.append (frame : Frame) (nodes : List Node) : Frame :=
  { frame with reversed := nodes.reverse ++ frame.reversed }

/-- The element that ends here. -/
def Frame.element (frame : Frame) : Node :=
  .element frame.tag.name frame.tag.attributes frame.reversed.reverse

/-- The text that characters make, none without characters. -/
def textNodes (cs : List Char) : List Node := if cs.isEmpty then [] else [.text (String.ofList cs)]

/-- What the reader is in the middle of. -/
inductive Mode where
  /-- In text, its characters last one first. -/
  | text (reversed : List Char)
  /-- Behind the bracket of a tag. -/
  | bracket
  /-- In the name of an opening tag. -/
  | opening (reversed : List Char)
  /-- In the name of a closing tag. -/
  | closing (reversed : List Char)
  /-- Behind a blank in an opening tag. -/
  | blank (tag : OpenTag)
  /-- In the name of an attribute. -/
  | key (tag : OpenTag) (reversed : List Char)
  /-- Behind the equals sign of an attribute. -/
  | equals (tag : OpenTag) (name : String)
  /-- In the quoted value of an attribute. -/
  | value (tag : OpenTag) (name : String) (reversed : List Char)
  /-- Behind the quotation mark that ends a value. -/
  | quoted (tag : OpenTag)

/-- A reader between two characters: its mode, the innermost open element and those around it. -/
structure State where
  mode : Mode
  frame : Frame
  outer : List Frame

/-- Whether a character can stand in the name of a tag. -/
def isTagChar (c : Char) : Bool := c.isAlphanum || c == '-'

/-- Enters an element, or passes a void one. -/
def opened (tag : OpenTag) (frame : Frame) (outer : List Frame) : State :=
  if Markup.voidTags.contains tag.name then
    ⟨.text [], frame.append [.element tag.name tag.attributes []], outer⟩
  else ⟨.text [], ⟨tag, []⟩, frame :: outer⟩

/-- Reads the character behind a name or value of an opening tag. -/
def endPart (tag : OpenTag) (frame : Frame) (outer : List Frame) (c : Char) : Option State :=
  if c = ' ' then some ⟨.blank tag, frame, outer⟩
  else if c = '>' then some (opened tag frame outer)
  else none

/-- Leaves the innermost element if it has this name. -/
def close? (name : String) (frame : Frame) : List Frame → Option State
  | [] => none
  | parent :: outer =>
    if frame.tag.name = name then some ⟨.text [], parent.append [frame.element], outer⟩ else none

/-- Reads one character. -/
def step (state : State) (c : Char) : Option State :=
  match state.mode with
  | .text reversed =>
    if c = '<' then
      (unescape? reversed.reverse).map fun cs =>
        ⟨.bracket, state.frame.append (textNodes cs), state.outer⟩
    else some { state with mode := .text (c :: reversed) }
  | .bracket =>
    if c = '/' then some { state with mode := .closing [] }
    else if c.isAlpha then some { state with mode := .opening [c] }
    else none
  | .opening reversed =>
    if isTagChar c then some { state with mode := .opening (c :: reversed) }
    else endPart ⟨String.ofList reversed.reverse, []⟩ state.frame state.outer c
  | .closing reversed =>
    if isTagChar c then some { state with mode := .closing (c :: reversed) }
    else if c = '>' then close? (String.ofList reversed.reverse) state.frame state.outer
    else none
  | .blank tag =>
    if isAttributeChar c then some { state with mode := .key tag [c] } else none
  | .key tag reversed =>
    if isAttributeChar c then some { state with mode := .key tag (c :: reversed) }
    else if c = '=' then some { state with mode := .equals tag (String.ofList reversed.reverse) }
    else endPart (tag.add (String.ofList reversed.reverse, none)) state.frame state.outer c
  | .equals tag name => if c = '"' then some { state with mode := .value tag name [] } else none
  | .value tag name reversed =>
    if c = '"' then
      (unescape? reversed.reverse).map fun cs =>
        { state with mode := .quoted (tag.add (name, some (String.ofList cs))) }
    else some { state with mode := .value tag name (c :: reversed) }
  | .quoted tag => endPart tag state.frame state.outer c

/-- Reads characters. -/
def feed (state : State) (cs : List Char) : Option State := cs.foldlM step state

/-- The reader in front of a text: its elements become children of a frame that nothing closes. -/
def start : State := ⟨.text [], ⟨⟨"", []⟩, []⟩, []⟩

/-- The element that a finished reader has read, if that is all it has read. -/
def State.result? (state : State) : Option Node :=
  match state.mode, state.frame.reversed, state.outer with
  | .text [], [.element name attributes children], [] => some (.element name attributes children)
  | _, _, _ => none

/-- The element that a text writes; nothing unless the whole text is one element. -/
def read? (s : String) : Option Node := (feed start s.toList).bind State.result?

example : read? "<p id=\"a&amp;b\" hidden>1 &lt; 2<br></p>" =
    some (.element "p" [("id", some "a&b"), ("hidden", none)]
      [.text "1 < 2", .element "br" [] []]) := by
  rfl

/-! ## Reading on -/

theorem feed_cons (state : State) (c : Char) (cs : List Char) :
    feed state (c :: cs) = (step state c).bind (feed · cs) := rfl

theorem feed_append (state : State) (cs rest : List Char) :
    feed state (cs ++ rest) = (feed state cs).bind (feed · rest) :=
  List.foldlM_append

/-- A mode that collects characters of one kind collects any number of them. -/
theorem feed_collect {mode : List Char → Mode} {p : Char → Prop} {frame : Frame}
    {outer : List Frame}
    (hstep : ∀ reversed c, p c →
      step ⟨mode reversed, frame, outer⟩ c = some ⟨mode (c :: reversed), frame, outer⟩)
    {cs : List Char} (hcs : ∀ c ∈ cs, p c) (reversed rest : List Char) :
    feed ⟨mode reversed, frame, outer⟩ (cs ++ rest) =
      feed ⟨mode (cs.reverse ++ reversed), frame, outer⟩ rest := by
  induction cs generalizing reversed with
  | nil => rfl
  | cons c more ih =>
    rw [List.forall_mem_cons] at hcs
    rw [List.cons_append, feed_cons, hstep reversed c hcs.1, Option.bind_some, ih hcs.2,
      List.reverse_cons, List.append_assoc]
    rfl

end TagReader

end LiveMarkup
