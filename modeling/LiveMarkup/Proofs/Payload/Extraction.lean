import LiveMarkup.Proofs.Payload.Escape
import LiveMarkup.Proofs.Payload.Written
import LiveMarkup.Proofs.Text.Search

/-!
# Payloads found again

The payload is found in its script block behind the id of the block, up to the closing tag: the id
stands nowhere before its attribute, the opening tag ends at its first angle bracket (`tagChars` has
none), and none is left in the escaped text. So the text that is read out of the block is the one that
was written into it (`extract?_block`), and the block is closed once (`closes_once`).
-/

set_option autoImplicit false

namespace LiveMarkup

/-! ## First occurrences -/

/-- Where a character stands, it stands first there or again behind its first place. -/
theorem eq_or_mem_of_append_cons {c : Char} {first rest before after : List Char}
    (absent : c ∉ first) (same : first ++ c :: rest = before ++ c :: after) :
    (before = first ∧ after = rest) ∨ c ∈ rest := by
  rcases List.append_eq_append_iff.mp same with ⟨gap, rfl, tail⟩ | ⟨gap, rfl, tail⟩
  · cases gap with
    | nil => exact .inl ⟨List.append_nil _, (List.cons.inj tail).2.symm⟩
    | cons d gap =>
      rw [(List.cons.inj tail).2]
      exact .inr (List.mem_append_right _ List.mem_cons_self)
  · cases gap with
    | nil => exact .inl ⟨(List.append_nil _).symm, (List.cons.inj tail).2⟩
    | cons d gap =>
      rw [← (List.cons.inj tail).1] at absent
      exact absurd (List.mem_append_right _ List.mem_cons_self) absent

/-! ## Tags -/

/-- No character of an escaped text ends an attribute or opens or closes a tag. -/
theorem Markup.not_mem_of_mem_escape {s : String} {c : Char} (member : c ∈ (escape s).toList) :
    c ∉ ['<', '>', '"'] := by
  have entity {entity : String} (plain : (entity.toList.all fun c => c ∉ ['<', '>', '"']) = true)
      (member : c ∈ entity.toList) : c ∉ ['<', '>', '"'] :=
    of_decide_eq_true (List.all_eq_true.mp plain c member)
  rw [escape, String.toList_ofList] at member
  obtain ⟨d, -, member⟩ := List.mem_flatMap.mp member
  unfold escapeChar at member
  split at member
  · exact entity (by decide) member
  split at member
  · exact entity (by decide) member
  split at member
  · exact entity (by decide) member
  split at member
  · exact entity (by decide) member
  split at member
  · exact entity (by decide) member
  · rename_i lower greater quote _
    rw [List.mem_singleton.mp member]
    simp [lower, greater, quote]

theorem Markup.attributeChars_attr (name value : String) :
    attributeChars (attr name value) =
      ' ' :: (name.toList ++ ['=', '"'] ++ (escapeChars value.toList ++ ['"'])) := by
  simp [attr, attributeChars]

/-- An opening tag with three attributes, the second one written after its blank. -/
theorem Markup.openChars_of_second {second : Attribute} {mark : List Char}
    (marked : attributeChars second = ' ' :: mark) (name : String) (first third : Attribute) :
    openChars name [first, second, third] =
      '<' :: (name.toList ++ attributeChars first ++ [' '] ++ (mark ++ attributeChars third) ++
        ['>']) := by
  simp [openChars, marked]

/-- A tag around trusted markup is its opening tag, the markup and its closing tag. -/
theorem Markup.toList_render_tag {name : String} (closed : voidTags.contains name = false)
    (attributes : List Attribute) (content : String) :
    (Markup.tag name attributes [.trusted content]).render.toList =
      openChars name attributes ++ content.toList ++ ('<' :: '/' :: name.toList ++ ['>']) := by
  rw [render, String.toList_ofList, chars, if_neg (by rw [closed]; exact Bool.false_ne_true)]
  simp only [listChars, chars, List.append_nil, closeChars]

/-- The text of a closing tag stands once, in the closing tag, if no other tag is opened behind
the first one, which is not a closing tag. -/
theorem append_closing_iff {inner name : List Char} (opening : inner.head? ≠ some '/')
    (unopened : '<' ∉ inner) (plain : '<' ∉ name) (before after : List Char) :
    '<' :: inner ++ ('<' :: '/' :: name ++ ['>']) = before ++ ('<' :: '/' :: name ++ after) ↔
      before = '<' :: inner ∧ after = ['>'] := by
  constructor
  · intro same
    cases before with
    | nil =>
      have begins := (List.cons.inj same).2
      cases inner with
      | nil => cases (List.cons.inj begins).1
      | cons c rest => exact absurd (congrArg some (List.cons.inj begins).1) opening
    | cons c before =>
      obtain ⟨rfl, behind⟩ := List.cons.inj same
      rcases eq_or_mem_of_append_cons unopened behind with ⟨rfl, closing⟩ | again
      · exact ⟨rfl, List.append_cancel_left closing⟩
      · simp [plain] at again
  · rintro ⟨rfl, rfl⟩
    rfl

namespace Payload

/-! ## Script blocks -/

/-- The id attribute of a script block. -/
def idChars (component : String) : List Char :=
  "id=\"".toList ++ ((Markup.escape component).toList ++ "-config\"".toList)

/-- The opening tag of a script block between its brackets. -/
def tagChars (component : String) : List Char :=
  "script type=\"application/json\" ".toList ++ (idChars component ++ " data-strata-config".toList)

theorem toList_mark (component : String) :
    ("id=\"" ++ Markup.escape component ++ "-config\"").toList = idChars component := by
  have whole := @String.toList_append ("id=\"" ++ Markup.escape component) "-config\""
  have first := @String.toList_append "id=\"" (Markup.escape component)
  rw [whole, first, List.append_assoc, idChars]

theorem not_bracket_of_mem_tagChars {component : String} {c : Char}
    (member : c ∈ tagChars component) : c ≠ '<' ∧ c ≠ '>' := by
  have literal {cs : List Char} (plain : (cs.all fun c => c ≠ '<' ∧ c ≠ '>') = true)
      (member : c ∈ cs) : c ≠ '<' ∧ c ≠ '>' :=
    of_decide_eq_true (List.all_eq_true.mp plain c member)
  unfold tagChars idChars at member
  rcases List.mem_append.mp member with kind | member
  · exact literal (by decide) kind
  rcases List.mem_append.mp member with member | flag
  · rcases List.mem_append.mp member with mark | member
    · exact literal (by decide) mark
    rcases List.mem_append.mp member with id | suffix
    · have plain := Markup.not_mem_of_mem_escape id
      simp only [List.mem_cons, List.not_mem_nil, or_false, not_or] at plain
      exact ⟨plain.1, plain.2.1⟩
    · exact literal (by decide) suffix
  · exact literal (by decide) flag

theorem escapeChars_blockId (component : String) :
    Markup.escapeChars (blockId component).toList =
      (Markup.escape component).toList ++ "-config".toList := by
  simp [blockId, Markup.escape, Markup.escapeChars, Markup.escapeChar]

theorem attributeChars_blockId (component : String) :
    Markup.attributeChars (Markup.attr "id" (blockId component)) = ' ' :: idChars component := by
  have name : "id".toList ++ ['=', '"'] = "id=\"".toList := rfl
  have suffix : "-config".toList ++ ['"'] = "-config\"".toList := rfl
  rw [Markup.attributeChars_attr, name, escapeChars_blockId, idChars, ← suffix]
  exact congrArg (fun l => ' ' :: ("id=\"".toList ++ l)) (List.append_assoc _ _ _)

theorem openChars_block (component : String) :
    Markup.openChars "script" [Markup.attr "type" "application/json",
        Markup.attr "id" (blockId component), Markup.flag "data-strata-config"] =
      '<' :: (tagChars component ++ ['>']) := by
  have kind : "script".toList ++ Markup.attributeChars (Markup.attr "type" "application/json") ++
      [' '] = "script type=\"application/json\" ".toList := rfl
  have flag : Markup.attributeChars (Markup.flag "data-strata-config") =
      " data-strata-config".toList := rfl
  rw [Markup.openChars_of_second (attributeChars_blockId component), kind, flag]
  rfl

/-- A script block is its opening tag, the escaped payload and its closing tag. -/
theorem toList_render_block (component : Component) (theme : Theme) :
    (block component theme).render.toList =
      '<' :: (tagChars component.id ++ '>' :: (escape (text component theme)).toList) ++
        ('<' :: '/' :: "script".toList ++ ['>']) := by
  rw [block, Markup.toList_render_tag (by decide), openChars_block]
  generalize "script".toList = name
  simp only [List.append_assoc, List.cons_append, List.nil_append]

/-- The id of a script block stands where its attribute does, whatever the id is. -/
theorem cutAt_idChars (component : String) (behind : List Char) :
    Text.cutAt (idChars component)
        ("<script type=\"application/json\" ".toList ++ (idChars component ++ behind)) =
      some ("<script type=\"application/json\" ".toList, behind) := by
  simp [idChars, Text.cutAt, List.isPrefixOf]

/-- What is read out of a script block is the text that was written into it. -/
theorem extract?_block (component : Component) (theme : Theme) :
    extract? (block component theme).render component.id =
      Json.read? (escape (text component theme)) := by
  have unclosed : '>' ∉ idChars component.id ++ " data-strata-config".toList := fun member =>
    (not_bracket_of_mem_tagChars (List.mem_append_right _ member)).2 rfl
  have unopened : '<' ∉ (escape (text component theme)).toList := fun member =>
    not_escaped_of_mem_escape member (.inl rfl)
  have parts : (block component theme).render.toList =
      "<script type=\"application/json\" ".toList ++ (idChars component.id ++
        (" data-strata-config".toList ++ '>' :: ((escape (text component theme)).toList ++
          '<' :: ("/script>".toList ++ [])))) := by
    have bracket : '<' :: "script type=\"application/json\" ".toList =
        "<script type=\"application/json\" ".toList := rfl
    have closing : '<' :: '/' :: "script".toList ++ ['>'] = '<' :: ("/script>".toList ++ []) :=
      rfl
    rw [toList_render_block, closing, ← bracket]
    unfold tagChars
    simp only [List.append_assoc, List.cons_append]
  have closing : '<' :: "/script>".toList = "</script>".toList := rfl
  have closed := Text.cutAt_append unopened "/script>".toList []
  rw [closing] at closed
  generalize '<' :: ("/script>".toList ++ []) = behind at parts closed
  have opened := Text.cutAt_singleton unclosed ((escape (text component theme)).toList ++ behind)
  rw [List.append_assoc] at opened
  unfold extract?
  simp only [toList_mark]
  rw [parts, cutAt_idChars, Option.bind_some, opened, Option.bind_some, closed, Option.bind_some,
    String.ofList_toList]

/-- A script block is closed once. -/
theorem closes_once (component : Component) (theme : Theme) :
    ∃ front, ∀ before after,
      (block component theme).render.toList = before ++ ("</script".toList ++ after) ↔
        before = front ∧ after = ['>'] := by
  have unopened : '<' ∉ tagChars component.id ++ '>' :: (escape (text component theme)).toList := by
    intro member
    rcases List.mem_append.mp member with tag | member
    · exact (not_bracket_of_mem_tagChars tag).1 rfl
    · rcases List.mem_cons.mp member with same | payload
      · cases same
      · exact not_escaped_of_mem_escape payload (.inl rfl)
  have opening : (tagChars component.id ++
      '>' :: (escape (text component theme)).toList).head? ≠ some '/' := by
    have first : "script type=\"application/json\" ".toList =
        's' :: "cript type=\"application/json\" ".toList := rfl
    unfold tagChars
    rw [first]
    simp only [List.cons_append, List.head?_cons]
    decide
  refine ⟨'<' :: (tagChars component.id ++ '>' :: (escape (text component theme)).toList),
    fun before after => ?_⟩
  rw [toList_render_block]
  exact append_closing_iff opening unopened (by decide) before after

/-! ## The trip through markup -/

/-- The payload of a component that was built from a parsed specification, with the options of the
specification or others, is the value of its text and is found again in the script block, if the
floats in it are read as they were written. For every component the block is closed at its end and
nowhere else. And escaping keeps the value of every JSON text and leaves no character that could end
a script. -/
theorem extract?_render_block (component : Component) (theme : Theme) :
    (∀ text spec options, Spec.ofText? text = some spec →
      Spec.component { spec with options } = .ok component →
      (∀ x, .float x ∈ (ofComponent component theme).toJson.numbers →
        (JsonNumber.float x).ReadsBack) →
      Json.read? (Payload.text component theme) = some (ofComponent component theme).toJson ∧
        extract? (block component theme).render component.id =
          some (ofComponent component theme).toJson) ∧
    (∃ front, ∀ before after,
      (block component theme).render.toList = before ++ ("</script".toList ++ after) ↔
        before = front ∧ after = ['>']) ∧
    ∀ json value, Json.read? json = some value →
      Json.read? (escape json) = some value ∧
        ∀ c ∈ ['<', '>', '&', '\u2028', '\u2029'], c ∉ (escape json).toList := by
  refine ⟨?_, closes_once component theme, ?_⟩
  · intro text spec options parsed built floats
    have readable := readable_toJson (Spec.inputs_readable parsed built) theme
    have written : Json.read? (Payload.text component theme) =
        some (ofComponent component theme).toJson := (Json.read?_compact readable floats).2
    exact ⟨written, (extract?_block component theme).trans (read?_escape written)⟩
  · intro json value read
    refine ⟨read?_escape read, fun c listed member => not_escaped_of_mem_escape member ?_⟩
    simpa only [List.mem_cons, List.not_mem_nil, or_false] using listed

/-- A specification with a label that closes scripts, an id that is escaped and a float among its
records. -/
def ordersText : String :=
  "\x7b\"id\":\"orders<1>\",\"states\":[" ++
    "\x7b\"id\":\"list\",\"label\":\"</script>&\",\"content\":\"a\"\x7d," ++
    "\x7b\"id\":\"map\",\"content\":\"b\"\x7d]," ++
    "\"data\":\x7b\"items\":[\x7b\"price\":1.5\x7d]\x7d\x7d"

/-- The component of this specification. -/
def orders? : Option Component :=
  (Spec.ofText? ordersText).bind fun spec => spec.component.toOption

/-- The payload of this component, with its float, is found again. -/
theorem extract?_render_block_orders :
    ∃ spec component, Spec.ofText? ordersText = some spec ∧ spec.component = .ok component ∧
      component.id = "orders<1>" ∧
      (ofComponent component .standard).toJson.numbers.any (fun n => n.text == "1.5") = true ∧
      extract? (block component .standard).render "orders<1>" =
        some (ofComponent component .standard).toJson := by
  have known : orders?.any (fun component => component.id == "orders<1>" &&
      (ofComponent component .standard).toJson.numbers.any (fun n => n.text == "1.5") &&
      (ofComponent component .standard).toJson.numbers.all fun n => decide n.ReadsBack) = true := by
    decide +kernel
  obtain ⟨component, given, known⟩ := (Option.any_eq_true _ _).mp known
  simp only [Bool.and_eq_true, beq_iff_eq] at known
  obtain ⟨⟨named, held⟩, back⟩ := known
  obtain ⟨spec, parsed, made⟩ := Option.bind_eq_some_iff.mp given
  have built : spec.component = .ok component := by
    cases result : spec.component with
    | ok other => rw [result] at made; cases made; rfl
    | error e => rw [result] at made; cases made
  have found := ((extract?_render_block component .standard).1 ordersText spec spec.options parsed
    built fun x member => of_decide_eq_true (List.all_eq_true.mp back _ member)).2
  rw [named] at found
  exact ⟨spec, component, parsed, built, named, held, found⟩

end Payload

end LiveMarkup
