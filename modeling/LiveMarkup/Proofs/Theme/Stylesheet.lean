import LiveMarkup.Proofs.StringMap
import LiveMarkup.Theme

/-!
# Shape of the stylesheet

A theme puts colors, a font and class names of any kind into the base stylesheet. Those that could end a
declaration, a rule or the stylesheet are left out, so the characters that give the stylesheet its shape
are the same for every theme, and the names of classes that stand in its selectors are names
(`Theme.css_keeps_shape`).
-/

set_option autoImplicit false

namespace LiveMarkup

namespace Stylesheet

/-! ## Characters that give a stylesheet its shape -/

/-- Whether a character opens or closes a rule, ends a declaration or ends a line. -/
def isMark (c : Char) : Bool := ['\x7b', '\x7d', ';', '\n'].contains c

/-- Whether a character may give a stylesheet, or the page around it, another shape. -/
def isStructural (c : Char) : Bool :=
  ['<', '>', ';', '\x7b', '\x7d', '\\'].contains c || Theme.isControl c

/-- A text without such characters. -/
def Plain (s : String) : Prop := s.toList.any isStructural = false

instance (s : String) : Decidable (Plain s) :=
  inferInstanceAs (Decidable (s.toList.any isStructural = false))

theorem plain_iff {s : String} : Plain s ↔ ∀ c ∈ s.toList, isStructural c = false := by
  rw [Plain, List.any_eq_false]
  simp only [Bool.not_eq_true]

theorem Plain.append {s t : String} (first : Plain s) (second : Plain t) : Plain (s ++ t) := by
  rw [Plain, String.toList_append, List.any_append, first, second]
  rfl

theorem Plain.not_mem {s : String} (plain : Plain s) {c : Char} (structural : isStructural c = true) :
    c ∉ s.toList := by
  intro member
  rw [plain_iff.mp plain c member] at structural
  cases structural

theorem Plain.filter {s : String} (plain : Plain s) : s.toList.filter isStructural = [] := by
  refine List.filter_eq_nil_iff.mpr fun c member => ?_
  rw [plain_iff.mp plain c member]
  exact Bool.false_ne_true

theorem isStructural_of_isMark {c : Char} (mark : isMark c = true) : isStructural c = true := by
  simp only [isMark, List.contains_iff_mem, List.mem_cons, List.not_mem_nil, or_false] at mark
  rcases mark with rfl | rfl | rfl | rfl
  all_goals rfl

/-! ## Rules -/

/-- The text of a selector: classes, each with what follows it in front of the next one. -/
def selectorText (classes : List (String × String)) : String :=
  String.join (classes.map fun entry => "." ++ entry.1 ++ entry.2)

/-- A rule: the classes of its selector, each with what follows it, and its declarations. -/
structure StyleRule where
  classes : List (String × String)
  declarations : List String

/-- The text of a rule. -/
def StyleRule.text (rule : StyleRule) : String := Theme.rule (selectorText rule.classes) rule.declarations

/-- Whether a character ends the name of a class in a selector. -/
def endsName (c : Char) : Bool :=
  ['.', ' ', '\t', '\n', '[', ':', '#', ',', '>', '+', '~', '*', '|', '(', '\x7b'].contains c

/-- What may follow a class in a selector, up to the next class. -/
structure Follows (s : String) : Prop where
  plain : Plain s
  dotless : '.' ∉ s.toList
  ends : s.toList.head?.all endsName = true

/-- A rule whose classes are names and whose parts have none of the characters that give a stylesheet
its shape. -/
structure StyleRule.Sound (rule : StyleRule) : Prop where
  named : ∀ entry ∈ rule.classes, Theme.isSelectorName entry.1 = true
  followed : ∀ entry ∈ rule.classes, Follows entry.2
  declared : ∀ declaration ∈ rule.declarations, Plain declaration

/-- The characters that give a rule with this many declarations its shape. -/
def ruleMarks (declarations : Nat) : List Char :=
  ['\n', '\x7b', '\n'] ++ (List.replicate declarations [';', '\n']).flatten ++ ['\x7d', '\n']

theorem isMark_of_mem_ruleMarks {declarations : Nat} {c : Char} (member : c ∈ ruleMarks declarations) :
    isMark c = true := by
  have opening : ['\n', '\x7b', '\n'].all isMark = true := rfl
  have line : [';', '\n'].all isMark = true := rfl
  have closing : ['\x7d', '\n'].all isMark = true := rfl
  rw [ruleMarks, List.mem_append, List.mem_append] at member
  rcases member with (opens | ends) | closes
  · exact List.all_eq_true.mp opening c opens
  · obtain ⟨pair, listed, held⟩ := List.mem_flatten.mp ends
    rw [List.eq_of_mem_replicate listed] at held
    exact List.all_eq_true.mp line c held
  · exact List.all_eq_true.mp closing c closes

/-! ## Characters of names -/

/-- Whether a character may stand in the name of a class. -/
def isNameChar (c : Char) : Bool := c.isAlphanum || c == '_' || c == '-'

theorem isNameChar_iff {c : Char} :
    isNameChar c = true ↔ c.isAlphanum = true ∨ c = '_' ∨ c = '-' := by
  rw [isNameChar, Bool.or_eq_true, Bool.or_eq_true, beq_iff_eq, beq_iff_eq, or_assoc]

theorem isNameChar_of_mem {name : String} (valid : Theme.isSelectorName name = true) {c : Char}
    (member : c ∈ name.toList) : isNameChar c = true := by
  rw [Theme.isSelectorName, Bool.and_eq_true, List.all_eq_true] at valid
  exact valid.2 c member

theorem ne_of_isNameChar {c other : Char} (allowed : isNameChar c = true)
    (foreign : isNameChar other = false) : c ≠ other := by
  rintro rfl
  rw [allowed] at foreign
  cases foreign

/-- A character of a name is none of those that are not. -/
theorem not_contains_of_isNameChar {c : Char} {marks : List Char} (allowed : isNameChar c = true)
    (foreign : marks.any isNameChar = false) : marks.contains c = false := by
  rw [List.contains_eq_any_beq, List.any_eq_false]
  rw [List.any_eq_false] at foreign
  intro other member same
  exact foreign other member (beq_iff_eq.mp same ▸ allowed)

theorem toNat_of_between {c : Char} {low high : UInt32} (between : c.val ≥ low ∧ c.val ≤ high) :
    low.toNat ≤ c.toNat ∧ c.toNat ≤ high.toNat :=
  ⟨UInt32.le_iff_toNat_le.mp between.1, UInt32.le_iff_toNat_le.mp between.2⟩

theorem toNat_of_both {c : Char} {low high : UInt32}
    (both : (decide (c.val ≥ low) && decide (c.val ≤ high)) = true) :
    low.toNat ≤ c.toNat ∧ c.toNat ≤ high.toNat := by
  obtain ⟨above, below⟩ := Bool.and_eq_true_iff.mp both
  exact toNat_of_between ⟨of_decide_eq_true above, of_decide_eq_true below⟩

theorem isControl_of_isNameChar {c : Char} (allowed : isNameChar c = true) :
    Theme.isControl c = false := by
  have outside (low : 0x20 ≤ c.toNat) (high : c.toNat < 0x7F) : Theme.isControl c = false := by
    rw [Theme.isControl, Bool.or_eq_false_iff, Bool.and_eq_false_iff]
    exact ⟨decide_eq_false (by omega), .inl (decide_eq_false (by omega))⟩
  rcases isNameChar_iff.mp allowed with alnum | rfl | rfl
  · rcases Bool.or_eq_true_iff.mp alnum with letter | digit
    · rcases Bool.or_eq_true_iff.mp letter with upper | lower
      · have codes : 65 ≤ c.toNat ∧ c.toNat ≤ 90 := toNat_of_between (of_decide_eq_true upper)
        exact outside (by omega) (by omega)
      · have codes : 97 ≤ c.toNat ∧ c.toNat ≤ 122 := toNat_of_both lower
        exact outside (by omega) (by omega)
    · have codes : 48 ≤ c.toNat ∧ c.toNat ≤ 57 := toNat_of_both digit
      exact outside (by omega) (by omega)
  · rfl
  · rfl

theorem Plain.of_isSelectorName {name : String} (valid : Theme.isSelectorName name = true) :
    Plain name := by
  refine plain_iff.mpr fun c member => ?_
  have allowed := isNameChar_of_mem valid member
  rw [isStructural, not_contains_of_isNameChar allowed rfl, isControl_of_isNameChar allowed]
  rfl

/-! ## Shape of a rule -/

theorem filter_declarations {declarations : List String}
    (plain : ∀ declaration ∈ declarations, Plain declaration) :
    (String.join (declarations.map fun declaration => "  " ++ declaration ++ ";\n")).toList.filter
      isStructural = (List.replicate declarations.length [';', '\n']).flatten := by
  induction declarations with
  | nil => rfl
  | cons declaration rest ih =>
    have first : declaration.toList.filter isStructural = [] :=
      (plain declaration List.mem_cons_self).filter
    have others := ih fun other member => plain other (List.mem_cons_of_mem _ member)
    rw [List.map_cons, String.join_cons, String.toList_append, String.toList_append,
      String.toList_append, List.filter_append, List.filter_append, List.filter_append, first, others,
      List.length_cons, List.replicate_succ, List.flatten_cons]
    rfl

theorem Plain.selectorText {classes : List (String × String)}
    (named : ∀ entry ∈ classes, Theme.isSelectorName entry.1 = true)
    (followed : ∀ entry ∈ classes, Follows entry.2) : Plain (selectorText classes) := by
  induction classes with
  | nil => rfl
  | cons entry rest ih =>
    have name : Plain entry.1 := .of_isSelectorName (named entry List.mem_cons_self)
    have behind : Plain entry.2 := (followed entry List.mem_cons_self).plain
    have others := ih (fun other member => named other (List.mem_cons_of_mem _ member))
      fun other member => followed other (List.mem_cons_of_mem _ member)
    rw [Stylesheet.selectorText, List.map_cons, String.join_cons]
    have dot : Plain "." := rfl
    exact ((dot.append name).append behind).append others

/-- What gives the text of a sound rule its shape depends on the number of its declarations only. -/
theorem StyleRule.filter_text {rule : StyleRule} (sound : rule.Sound) :
    rule.text.toList.filter isStructural = ruleMarks rule.declarations.length := by
  have selector := (Plain.selectorText sound.named sound.followed).filter
  have declarations := filter_declarations sound.declared
  rw [StyleRule.text, Theme.rule, String.toList_append, String.toList_append, String.toList_append,
    String.toList_append, List.filter_append, List.filter_append, List.filter_append,
    List.filter_append, selector, declarations, ruleMarks]
  rfl

theorem filter_rules {rules : List StyleRule} (sound : ∀ rule ∈ rules, rule.Sound) :
    (String.join (rules.map StyleRule.text)).toList.filter isStructural =
      rules.flatMap fun rule => ruleMarks rule.declarations.length := by
  induction rules with
  | nil => rfl
  | cons rule rest ih =>
    have first := StyleRule.filter_text (sound rule List.mem_cons_self)
    have others := ih fun other member => sound other (List.mem_cons_of_mem _ member)
    rw [List.map_cons, String.join_cons, String.toList_append, List.filter_append, first, others,
      List.flatMap_cons]

/-! ## Class names in a stylesheet -/

/-- The names of classes outside of the blocks of a stylesheet, whose blocks are not nested: each is what
stands behind a dot, up to where a name ends. -/
def namesFrom (inBlock : Bool) : List Char → List String
  | [] => []
  | c :: rest =>
    if inBlock then namesFrom (c != '\x7d') rest
    else if c = '.' then
      String.ofList (rest.takeWhile fun d => !endsName d) :: namesFrom false rest
    else namesFrom (c == '\x7b') rest

/-- The names of classes in the selectors of a stylesheet. -/
def classNames (css : String) : List String := namesFrom false css.toList

theorem namesFrom_outside {front : List Char} (free : ∀ c ∈ front, c ≠ '.' ∧ c ≠ '\x7b')
    (rest : List Char) : namesFrom false (front ++ rest) = namesFrom false rest := by
  induction front with
  | nil => rfl
  | cons c front ih =>
    have here := free c List.mem_cons_self
    have others := ih fun other member => free other (List.mem_cons_of_mem _ member)
    rw [List.cons_append, namesFrom, if_neg Bool.false_ne_true, if_neg here.1,
      beq_false_of_ne here.2, others]

theorem namesFrom_block {block : List Char} (free : '\x7d' ∉ block) (rest : List Char) :
    namesFrom true (block ++ '\x7d' :: rest) = namesFrom false rest := by
  induction block with
  | nil => rfl
  | cons c block ih =>
    rw [List.mem_cons, not_or] at free
    have inner : (c != '\x7d') = true := bne_iff_ne.mpr (Ne.symm free.1)
    rw [List.cons_append, namesFrom, if_pos rfl, inner, ih free.2]

theorem head_append {front back : List Char} (first : front.head?.all endsName = true)
    (second : back.head?.all endsName = true) : (front ++ back).head?.all endsName = true := by
  cases front with
  | nil => exact second
  | cons c front => exact first

/-- A name is read up to what ends it. -/
theorem takeWhile_name {name : String} (valid : Theme.isSelectorName name = true) {rest : List Char}
    (ends : rest.head?.all endsName = true) :
    (name.toList ++ rest).takeWhile (fun c => !endsName c) = name.toList := by
  have inner : ∀ c ∈ name.toList, (!endsName c) = true := by
    intro c member
    rw [endsName, not_contains_of_isNameChar (isNameChar_of_mem valid member) rfl]
    rfl
  rw [List.takeWhile_append_of_pos inner]
  cases rest with
  | nil => rw [List.takeWhile_nil, List.append_nil]
  | cons c rest =>
    have stops : endsName c = true := ends
    rw [List.takeWhile_cons, stops]
    exact List.append_nil _

/-- The classes of a selector are read in order, each by its whole name. -/
theorem namesFrom_selectorText {classes : List (String × String)}
    (named : ∀ entry ∈ classes, Theme.isSelectorName entry.1 = true)
    (followed : ∀ entry ∈ classes, Follows entry.2) {rest : List Char}
    (ends : rest.head?.all endsName = true) :
    namesFrom false ((selectorText classes).toList ++ rest) =
      classes.map Prod.fst ++ namesFrom false rest := by
  induction classes with
  | nil => rfl
  | cons entry others ih =>
    obtain ⟨name, behind⟩ := entry
    have valid : Theme.isSelectorName name = true := named (name, behind) List.mem_cons_self
    have follows : Follows behind := followed (name, behind) List.mem_cons_self
    have more := ih (fun other member => named other (List.mem_cons_of_mem _ member))
      fun other member => followed other (List.mem_cons_of_mem _ member)
    -- Behind the name stands its tail, the dot of the next class or the rest.
    have next : (selectorText others).toList.head?.all endsName = true := by
      cases others with
      | nil => rfl
      | cons other others =>
        rw [selectorText, List.map_cons, String.join_cons, String.toList_append, String.toList_append,
          String.toList_append]
        rfl
    have read := takeWhile_name valid (head_append follows.ends (head_append next ends))
    have skipped : ∀ c ∈ name.toList ++ behind.toList, c ≠ '.' ∧ c ≠ '\x7b' := by
      intro c member
      rcases List.mem_append.mp member with inName | inTail
      · have allowed := isNameChar_of_mem valid inName
        exact ⟨ne_of_isNameChar allowed rfl, ne_of_isNameChar allowed rfl⟩
      · refine ⟨fun dot => follows.dotless (dot ▸ inTail), fun brace => ?_⟩
        exact follows.plain.not_mem (rfl : isStructural '\x7b' = true) (brace ▸ inTail)
    have text : (selectorText ((name, behind) :: others)).toList ++ rest =
        '.' :: (name.toList ++ behind.toList ++ ((selectorText others).toList ++ rest)) := by
      simp [selectorText, String.join_cons]
    rw [text, namesFrom, if_neg Bool.false_ne_true, if_pos rfl, namesFrom_outside skipped, more,
      List.append_assoc, read, String.ofList_toList]
    rfl

/-- Reading a sound rule gives its classes. -/
theorem namesFrom_text {rule : StyleRule} (sound : rule.Sound) (rest : List Char) :
    namesFrom false (rule.text.toList ++ rest) = rule.classes.map Prod.fst ++ namesFrom false rest := by
  let block : List Char := '\n' :: (String.join
    (rule.declarations.map fun declaration => "  " ++ declaration ++ ";\n")).toList
  have inner : '\x7d' ∉ block := by
    -- A brace would be among the structural characters of the declarations, which are all known.
    intro member
    have kept := List.mem_filter.mpr ⟨member, (rfl : isStructural '\x7d' = true)⟩
    have marks : block.filter isStructural =
        '\n' :: (List.replicate rule.declarations.length [';', '\n']).flatten :=
      congrArg ('\n' :: ·) (filter_declarations sound.declared)
    rw [marks, List.mem_cons, List.mem_flatten] at kept
    rcases kept with newline | ⟨group, listed, held⟩
    · exact absurd newline (by decide)
    · rw [List.eq_of_mem_replicate listed] at held
      exact absurd held (by decide)
  have text : rule.text.toList ++ rest = '\n' :: ((selectorText rule.classes).toList ++
      (' ' :: '\x7b' :: (block ++ '\x7d' :: '\n' :: rest))) := by
    simp [StyleRule.text, Theme.rule, block]
  have newline : ∀ tail, namesFrom false ('\n' :: tail) = namesFrom false tail := fun _ => rfl
  have opened : ∀ tail, namesFrom false (' ' :: '\x7b' :: tail) = namesFrom true tail := fun _ => rfl
  rw [text, newline, namesFrom_selectorText sound.named sound.followed rfl, opened,
    namesFrom_block inner, newline]

theorem classNames_rules {rules : List StyleRule} (sound : ∀ rule ∈ rules, rule.Sound) :
    classNames (String.join (rules.map StyleRule.text)) =
      rules.flatMap fun rule => rule.classes.map Prod.fst := by
  induction rules with
  | nil => rfl
  | cons rule rest ih =>
    have others := ih fun other member => sound other (List.mem_cons_of_mem _ member)
    rw [classNames] at others
    rw [classNames, List.map_cons, String.join_cons, String.toList_append,
      namesFrom_text (sound rule List.mem_cons_self), others, List.flatMap_cons]

end Stylesheet

namespace Theme

open Stylesheet

/-! ## What a theme puts into the stylesheet -/

theorem plain_of_isSafeValue {value : String} (safe : isSafeValue value = true) : Plain value := by
  refine plain_iff.mpr fun c member => ?_
  rw [isSafeValue, Bool.and_eq_true, List.all_eq_true] at safe
  have allowed := safe.2 c member
  rw [Bool.not_eq_true'] at allowed
  exact allowed

theorem plain_color (theme : Theme) (name : String) {fallback : String} (plain : Plain fallback) :
    Plain (theme.color name fallback) := by
  rw [color]
  split
  · rename_i value _
    by_cases safe : isSafeValue value = true
    · rw [if_pos safe]
      exact plain_of_isSafeValue safe
    · rw [if_neg safe]
      exact plain
  · exact plain

theorem plain_font (theme : Theme) : Plain theme.font := by
  rw [font]
  by_cases safe : isSafeValue theme.fontFamily = true
  · rw [if_pos safe]
    exact plain_of_isSafeValue safe
  · rw [if_neg safe]
    decide

/-- The class of a role with a built-in class is a name. -/
theorem isSelectorName_selectorClass (theme : Theme) {role : String}
    (known : isSelectorName ((standardClasses.find? role).getD "") = true) :
    isSelectorName (theme.selectorClass role) = true := by
  rw [selectorClass]
  split
  · rename_i named
    exact named
  · exact known

/-- The rules of the base stylesheet. -/
def rules (theme : Theme) : List StyleRule :=
  let brand := theme.color "brand" "#2563eb"
  let muted := theme.color "muted" "#64748b"
  let surface := theme.color "surface" "#ffffff"
  let surfaceAlt := theme.color "surface-alt" "#e2e8f0"
  let text := theme.color "text" "#0f172a"
  let c (role : String) : String := theme.selectorClass role
  [ ⟨[(c "component", "")],
      ["font-family: " ++ theme.font, "color: " ++ text, "background: " ++ surface]⟩,
    ⟨[(c "component", " "), (c "hidden", "")], ["display: none !important"]⟩,
    ⟨[(c "nav", "")], ["display: flex", "gap: 4px", "border-bottom: 1px solid " ++ surfaceAlt]⟩,
    ⟨[(c "tab", "")],
      ["font: inherit", "border: 0", "background: transparent", "padding: 8px 14px",
        "cursor: pointer", "color: " ++ muted]⟩,
    ⟨[(c "tab", ""), (c "active", "")],
      ["color: " ++ brand, "box-shadow: inset 0 -2px 0 " ++ brand]⟩,
    ⟨[(c "tab", "[disabled]")], ["opacity: 0.5", "cursor: not-allowed"]⟩,
    ⟨[(c "filters", "")], ["display: flex", "flex-wrap: wrap", "gap: 12px", "margin: 12px 0"]⟩,
    ⟨[(c "input", "")],
      ["font: inherit", "border: 1px solid " ++ surfaceAlt, "border-radius: 8px",
        "padding: 6px 10px"]⟩,
    ⟨[(c "summary", "")], ["color: " ++ muted, "font-size: 14px"]⟩]

theorem css_eq (theme : Theme) : theme.css = String.join (theme.rules.map StyleRule.text) := by
  simp [css, rules, StyleRule.text, selectorText, String.join_cons, String.append_assoc]

/-- The roles whose classes stand in the selectors, in order. -/
def styledRoles : List String :=
  ["component", "component", "hidden", "nav", "tab", "tab", "active", "tab", "filters", "input", "summary"]

theorem classes_rules (theme : Theme) :
    (theme.rules.flatMap fun rule => rule.classes.map Prod.fst) =
      styledRoles.map theme.selectorClass := by
  simp [rules, styledRoles]

theorem isSelectorName_of_styled (theme : Theme) {name : String}
    (styled : name ∈ styledRoles.map theme.selectorClass) : isSelectorName name = true := by
  obtain ⟨role, listed, rfl⟩ := List.mem_map.mp styled
  have known : ∀ role ∈ styledRoles,
      isSelectorName ((standardClasses.find? role).getD "") = true := by decide
  exact theme.isSelectorName_selectorClass (known role listed)

theorem follows_rules (theme : Theme) :
    ∀ rule ∈ theme.rules, ∀ entry ∈ rule.classes, Follows entry.2 := by
  have tails : (theme.rules.flatMap fun rule => rule.classes.map Prod.snd) =
      ["", " ", "", "", "", "", "", "[disabled]", "", "", ""] := rfl
  have follow : ∀ tail ∈ ["", " ", "[disabled]"], Follows tail := by
    intro tail listed
    simp only [List.mem_cons, List.not_mem_nil, or_false] at listed
    rcases listed with rfl | rfl | rfl
    all_goals exact ⟨rfl, by decide, rfl⟩
  intro rule member entry listed
  refine follow entry.2 ?_
  have tail : entry.2 ∈ theme.rules.flatMap fun rule => rule.classes.map Prod.snd :=
    List.mem_flatMap.mpr ⟨rule, member, List.mem_map_of_mem listed⟩
  rw [tails] at tail
  simp only [List.mem_cons, List.not_mem_nil, or_false] at tail ⊢
  tauto

theorem plain_rules (theme : Theme) :
    ∀ rule ∈ theme.rules, ∀ declaration ∈ rule.declarations, Plain declaration := by
  have brand : Plain (theme.color "brand" "#2563eb") := theme.plain_color "brand" (by decide)
  have muted : Plain (theme.color "muted" "#64748b") := theme.plain_color "muted" (by decide)
  have surface : Plain (theme.color "surface" "#ffffff") := theme.plain_color "surface" (by decide)
  have surfaceAlt : Plain (theme.color "surface-alt" "#e2e8f0") :=
    theme.plain_color "surface-alt" (by decide)
  have text : Plain (theme.color "text" "#0f172a") := theme.plain_color "text" (by decide)
  have font : Plain theme.font := theme.plain_font
  simp only [rules, List.forall_mem_cons, List.not_mem_nil, false_implies, implies_true, and_true]
  -- A declaration is a literal text, or such a text in front of a value of the theme.
  refine ⟨⟨.append (by decide) font, .append (by decide) text, .append (by decide) surface⟩,
    by decide,
    ⟨by decide, by decide, .append (by decide) surfaceAlt⟩,
    ⟨by decide, by decide, by decide, by decide, by decide, .append (by decide) muted⟩,
    ⟨.append (by decide) brand, .append (by decide) brand⟩,
    ⟨by decide, by decide⟩,
    ⟨by decide, by decide, by decide, by decide⟩,
    ⟨by decide, .append (by decide) surfaceAlt, by decide, by decide⟩,
    .append (by decide) muted, by decide⟩

theorem rules_sound (theme : Theme) : ∀ rule ∈ theme.rules, rule.Sound := by
  intro rule member
  refine ⟨fun entry listed => ?_, theme.follows_rules rule member, theme.plain_rules rule member⟩
  refine theme.isSelectorName_of_styled ?_
  rw [← theme.classes_rules]
  exact List.mem_flatMap.mpr ⟨rule, member, List.mem_map_of_mem listed⟩

/-! ## The stylesheet of every theme -/

/-- What a theme sets has no effect on the characters that give the stylesheet its shape. -/
theorem filter_css (theme : Theme) :
    theme.css.toList.filter isStructural = [3, 1, 3, 6, 2, 2, 4, 4, 2].flatMap ruleMarks := by
  have counts : theme.rules.map (fun rule => rule.declarations.length) =
      [3, 1, 3, 6, 2, 2, 4, 4, 2] := by simp [rules]
  rw [css_eq, filter_rules theme.rules_sound, ← counts, List.flatMap_map]

theorem isMark_of_isStructural {theme : Theme} {c : Char} (member : c ∈ theme.css.toList)
    (structural : isStructural c = true) : isMark c = true := by
  have kept := List.mem_filter.mpr ⟨member, structural⟩
  rw [filter_css] at kept
  obtain ⟨count, -, held⟩ := List.mem_flatMap.mp kept
  exact isMark_of_mem_ruleMarks held

/-- The base stylesheet of every theme has the shape of the built-in one: it holds no character that could
end the element around it or escape another one, its braces, semicolons and line ends are those of the
built-in one in the same order, and the classes in its selectors are those of the same roles, each a name
of ASCII letters, digits, hyphens and underscores. -/
theorem css_keeps_shape (theme : Theme) :
    (∀ c ∈ theme.css.toList, c ≠ '<' ∧ c ≠ '>' ∧ c ≠ '\\') ∧
      theme.css.toList.filter isMark = standard.css.toList.filter isMark ∧
      classNames theme.css = styledRoles.map theme.selectorClass ∧
      ∀ name ∈ classNames theme.css, name ≠ "" ∧
        ∀ c ∈ name.toList, c.isAlphanum = true ∨ c = '_' ∨ c = '-' := by
  have names : classNames theme.css = styledRoles.map theme.selectorClass := by
    rw [css_eq, classNames_rules theme.rules_sound, classes_rules]
  refine ⟨fun c member => ?_, ?_, names, fun name listed => ?_⟩
  · -- Every other character of this kind is one that the built-in stylesheet has as well.
    have absent : ∀ other, isStructural other = true → isMark other = false → c ≠ other := by
      rintro other structural plain rfl
      rw [isMark_of_isStructural member structural] at plain
      cases plain
    exact ⟨absent '<' (by decide) (by decide), absent '>' (by decide) (by decide),
      absent '\\' (by decide) (by decide)⟩
  · have both : ∀ c, (isMark c && isStructural c) = isMark c := by
      intro c
      cases mark : isMark c with
      | false => rfl
      | true => exact isStructural_of_isMark mark
    have same := theme.filter_css.trans standard.filter_css.symm
    have marks := congrArg (List.filter isMark) same
    simpa only [List.filter_filter, both] using marks
  · rw [names] at listed
    have valid := theme.isSelectorName_of_styled listed
    refine ⟨?_, fun c member => isNameChar_iff.mp (isNameChar_of_mem valid member)⟩
    rintro rfl
    exact absurd valid (by decide)

end Theme

end LiveMarkup
