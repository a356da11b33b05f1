import LiveMarkup.Text.Case
import LiveMarkup.Text.Search
import Mathlib.Data.List.Infix

/-!
# Lower case and occurrences

A text and a part of it are put in lower case one by one, and the form of a capital sigma depends on what
stands around it. So a part may be lost: its last sigma is final in it, and not in the text. A sigma is
exposed (`SigmaExposed`) when nothing in the part settles which form it takes. The lower-case form of a
part occurs in that of every text in which the part occurs exactly when no sigma of the part is exposed
(`lower_occurs_iff`).
-/

set_option autoImplicit false

namespace LiveMarkup.Text

/-! ## Neighbours of a sigma -/

/-- Whether the character is passed over in looking for the neighbour of a sigma. -/
def isCaseIgnorable (c : Char) : Bool := caseIgnorableRanges.any (CodeRange.holds · c.toNat)

/-- Behind characters that are passed over the next ones are met, and else those alone count. -/
theorem meetsCased_append (front back : List Char) :
    meetsCased (front ++ back) =
      if front.all isCaseIgnorable then meetsCased back else meetsCased front := by
  induction front with
  | nil => rfl
  | cons c rest ih =>
    cases ignored : isCaseIgnorable c with
    | true =>
      have skip : ∀ cs, meetsCased (c :: cs) = meetsCased cs := fun cs => by
        rw [meetsCased, meetsCased, List.dropWhile_cons_of_pos (by exact ignored)]
      rw [List.cons_append, skip, skip, ih, List.all_cons, ignored, Bool.true_and]
    | false =>
      have first : ∀ cs, meetsCased (c :: cs) = casedRanges.any (CodeRange.holds · c.toNat) := fun cs => by
        rw [meetsCased, List.dropWhile_cons_of_neg (by rw [Bool.not_eq_true]; exact ignored)]
      rw [List.cons_append, first, first, List.all_cons, ignored, Bool.false_and, if_neg (by decide)]

theorem meetsCased_of_all {cs : List Char} (ignored : cs.all isCaseIgnorable = true) :
    meetsCased cs = false := by
  have nothing := meetsCased_append cs []
  rw [if_pos ignored, List.append_nil] at nothing
  exact nothing

theorem meetsCased_append_of_not_all {front : List Char}
    (counts : ¬ front.all isCaseIgnorable = true) (back : List Char) :
    meetsCased (front ++ back) = meetsCased front := by
  rw [meetsCased_append, if_neg counts]

theorem isCaseIgnorable_sigma : isCaseIgnorable 'Σ' = false := by decide +kernel

theorem not_all_of_mem {cs : List Char} (member : 'Σ' ∈ cs) : ¬ cs.all isCaseIgnorable = true := by
  intro ignored
  have sigma := List.all_eq_true.mp ignored _ member
  rw [isCaseIgnorable_sigma] at sigma
  cases sigma

/-! ## Lower case between other characters -/

/-- The form of a capital sigma between `before`, which is listed backwards, and `after`. -/
def sigmaForm (before after : List Char) : Char :=
  if meetsCased before && !meetsCased after then 'ς' else 'σ'

/-- The lower-case form of the characters between `before`, which is listed backwards, and `after`. -/
def lowerBetween (after : List Char) : List Char → List Char → List Char
  | _, [] => []
  | before, c :: rest =>
    (if c = 'Σ' then [sigmaForm before (rest ++ after)] else lowerChar c) ++
      lowerBetween after (c :: before) rest

theorem lowerAfter_eq (before cs : List Char) : lowerAfter before cs = lowerBetween [] before cs := by
  induction cs generalizing before with
  | nil => rfl
  | cons c rest ih =>
    rw [lowerAfter, lowerBetween, ih, List.append_nil, sigmaForm]
    split
    · split <;> rfl
    · rfl

theorem lowerBetween_append (after before cs more : List Char) :
    lowerBetween after before (cs ++ more) =
      lowerBetween (more ++ after) before cs ++ lowerBetween after (cs.reverse ++ before) more := by
  induction cs generalizing before with
  | nil => rfl
  | cons c rest ih =>
    rw [List.cons_append, lowerBetween, lowerBetween, ih, List.append_assoc, List.append_assoc,
      List.reverse_cons, List.append_assoc]
    rfl

/-- What stands around the characters matters for the forms of the sigmas only. -/
theorem lowerBetween_congr {after after' before before' cs : List Char}
    (same : ∀ front back, cs = front ++ 'Σ' :: back →
      sigmaForm (front.reverse ++ before) (back ++ after) =
        sigmaForm (front.reverse ++ before') (back ++ after')) :
    lowerBetween after before cs = lowerBetween after' before' cs := by
  induction cs generalizing before before' with
  | nil => rfl
  | cons c rest ih =>
    have tail : lowerBetween after (c :: before) rest = lowerBetween after' (c :: before') rest := by
      refine ih fun front back split => ?_
      have here := same (c :: front) back (by rw [split, List.cons_append])
      simpa using here
    rw [lowerBetween, lowerBetween, tail]
    split
    · rename_i sigma
      have here := same [] rest (by rw [sigma]; rfl)
      simp only [List.reverse_nil, List.nil_append] at here
      rw [here]
    · rfl

/-! ## Exposed sigmas -/

/-- A sigma of the characters may take the other form between others: all before it is passed over, and
what is behind it would leave it final; or all behind it is passed over, and it is final by what is before
it. -/
def SigmaExposed (cs : List Char) : Prop :=
  ∃ front back, cs = front ++ 'Σ' :: back ∧
    (front.all isCaseIgnorable = true ∧ meetsCased back = false ∨
      back.all isCaseIgnorable = true ∧ meetsCased front.reverse = true)

instance (cs : List Char) : Decidable (SigmaExposed cs) :=
  decidable_of_iff (∃ place < cs.length, cs[place]? = some 'Σ' ∧
      ((cs.take place).all isCaseIgnorable = true ∧ meetsCased (cs.drop (place + 1)) = false ∨
        (cs.drop (place + 1)).all isCaseIgnorable = true ∧ meetsCased (cs.take place).reverse = true)) <| by
    constructor
    · rintro ⟨place, inside, here, sides⟩
      obtain ⟨_, sigma⟩ := List.getElem?_eq_some_iff.mp here
      refine ⟨cs.take place, cs.drop (place + 1), ?_, sides⟩
      rw [← sigma, ← List.drop_eq_getElem_cons inside, List.take_append_drop]
    · rintro ⟨front, back, rfl, sides⟩
      refine ⟨front.length, by simp, by simp, ?_⟩
      simpa using sides

/-- Where no sigma is exposed, nothing around the characters matters. -/
theorem lowerBetween_of_not_exposed {cs : List Char} (settled : ¬ SigmaExposed cs)
    (after before : List Char) : lowerBetween after before cs = lowerBetween [] [] cs := by
  refine lowerBetween_congr fun front back split => ?_
  have left : ¬ (front.all isCaseIgnorable = true ∧ meetsCased back = false) :=
    fun exposed => settled ⟨front, back, split, .inl exposed⟩
  have right : ¬ (back.all isCaseIgnorable = true ∧ meetsCased front.reverse = true) :=
    fun exposed => settled ⟨front, back, split, .inr exposed⟩
  rw [List.append_nil, List.append_nil, sigmaForm, sigmaForm]
  by_cases ignored : front.all isCaseIgnorable = true
  · -- A cased character follows, whatever stands behind that, so the sigma is not final.
    have follows : meetsCased back = true := by simpa [ignored] using left
    have counts : ¬ back.all isCaseIgnorable = true := fun all => by
      rw [meetsCased_of_all all] at follows
      cases follows
    rw [meetsCased_append_of_not_all counts, follows]
    simp
  · have counts : ¬ front.reverse.all isCaseIgnorable = true := by rwa [List.all_reverse]
    rw [meetsCased_append_of_not_all counts]
    by_cases cased : meetsCased front.reverse = true
    · have counts : ¬ back.all isCaseIgnorable = true := fun all => right ⟨all, cased⟩
      rw [meetsCased_append_of_not_all counts]
    · rw [Bool.not_eq_true] at cased
      rw [cased]
      rfl

/-! ## Texts in which a part is lost -/

/-- What is farther away than a sigma does not matter. -/
theorem meetsCased_append_sigma (near far : List Char) :
    meetsCased (near ++ 'Σ' :: far) = meetsCased (near ++ ['Σ']) := by
  have counts : ¬ (near ++ ['Σ']).all isCaseIgnorable = true := not_all_of_mem (by simp)
  have behind := meetsCased_append_of_not_all counts far
  rwa [List.append_assoc] at behind

/-- A sigma shields the characters on either side of it from those on the other. -/
theorem lowerBetween_split (after before front back : List Char) :
    lowerBetween after before (front ++ 'Σ' :: back) =
      lowerBetween ['Σ'] before front ++ sigmaForm (front.reverse ++ before) (back ++ after) ::
        lowerBetween after ['Σ'] back := by
  have left : lowerBetween ('Σ' :: (back ++ after)) before front = lowerBetween ['Σ'] before front :=
    lowerBetween_congr fun earlier later _ => by
      rw [sigmaForm, sigmaForm, meetsCased_append_sigma later]
  have right : lowerBetween after ('Σ' :: (front.reverse ++ before)) back =
      lowerBetween after ['Σ'] back :=
    lowerBetween_congr fun earlier later _ => by
      rw [sigmaForm, sigmaForm, meetsCased_append_sigma earlier.reverse]
  rw [lowerBetween_append, lowerBetween, if_pos rfl, List.cons_append, left, right]
  rfl

theorem lowerBetween_of_all {cs : List Char} (ignored : cs.all isCaseIgnorable = true)
    (after after' before before' : List Char) :
    lowerBetween after before cs = lowerBetween after' before' cs := by
  refine lowerBetween_congr fun front back split => absurd ignored (not_all_of_mem ?_)
  simp [split]

/-- A list does not occur where one of its items is replaced and does not stand elsewhere. -/
theorem not_infix_of_replaced {front back left right : List Char} {c d : Char} (differs : d ≠ c)
    (fresh : c ∉ left ∧ c ∉ right) :
    ¬ front ++ c :: back <:+: left ++ (front ++ d :: back) ++ right := by
  intro occurs
  have count := occurs.sublist.count_le c
  simp only [List.count_append, List.count_cons_self, List.count_cons_of_ne differs,
    List.count_eq_zero_of_not_mem fresh.1, List.count_eq_zero_of_not_mem fresh.2] at count
  omega

theorem meetsCased_letter : meetsCased ['A'] = true := by decide +kernel

/-- A letter next to an exposed sigma gives it the other form, and the part is lost in such a text. -/
theorem exists_lost_of_exposed {cs : List Char} (exposed : SigmaExposed cs) :
    ∃ front back, ¬ lowerAfter [] cs <:+: lowerAfter [] (front ++ cs ++ back) := by
  obtain ⟨front, back, rfl, ⟨ignored, uncased⟩ | ⟨ignored, cased⟩⟩ := exposed
  · -- Alone the sigma is not final, and behind a letter it is.
    refine ⟨['A'], [], ?_⟩
    have alone : sigmaForm (front.reverse ++ []) (back ++ []) = 'σ' := by
      rw [List.append_nil, sigmaForm, meetsCased_of_all (by rwa [List.all_reverse])]
      rfl
    have within : sigmaForm (front.reverse ++ ['A']) (back ++ []) = 'ς' := by
      rw [List.append_nil, sigmaForm, meetsCased_append, List.all_reverse, if_pos ignored,
        meetsCased_letter, uncased]
      rfl
    have text : lowerAfter [] (['A'] ++ (front ++ 'Σ' :: back) ++ []) =
        ['a'] ++ lowerBetween [] ['A'] (front ++ 'Σ' :: back) ++ [] := by
      rw [List.append_nil, List.append_nil, lowerAfter_eq]
      rfl
    rw [text, lowerAfter_eq, lowerBetween_split, lowerBetween_split, alone, within,
      lowerBetween_of_all ignored ['Σ'] ['Σ'] ['A'] []]
    exact not_infix_of_replaced (by decide) (by decide)
  · -- Alone the sigma is final, and in front of a letter it is not.
    refine ⟨[], ['A'], ?_⟩
    have alone : sigmaForm (front.reverse ++ []) (back ++ []) = 'ς' := by
      rw [List.append_nil, List.append_nil, sigmaForm, meetsCased_of_all ignored, cased]
      rfl
    have within : sigmaForm (front.reverse ++ []) (back ++ ['A']) = 'σ' := by
      rw [sigmaForm, meetsCased_append back, if_pos ignored, meetsCased_letter, Bool.not_true,
        Bool.and_false]
      rfl
    have text : lowerAfter [] ([] ++ (front ++ 'Σ' :: back) ++ ['A']) =
        [] ++ lowerBetween ['A'] [] (front ++ 'Σ' :: back) ++ ['a'] := by
      rw [List.nil_append, List.nil_append, lowerAfter_eq, lowerBetween_append]
      rfl
    rw [text, lowerAfter_eq, lowerBetween_split, lowerBetween_split, alone, within,
      lowerBetween_of_all ignored ['A'] [] ['Σ'] ['Σ']]
    exact not_infix_of_replaced (by decide) (by decide)

/-! ## Main result -/

theorem lowerAfter_infix_of_not_exposed {part whole : List Char} (settled : ¬ SigmaExposed part)
    (occurs : part <:+: whole) : lowerAfter [] part <:+: lowerAfter [] whole := by
  obtain ⟨front, back, rfl⟩ := occurs
  have same := lowerBetween_of_not_exposed settled (back ++ []) (front.reverse ++ [])
  rw [lowerAfter_eq, lowerAfter_eq, lowerBetween_append, lowerBetween_append, same]
  exact List.infix_append _ _ _

/-- In lower case a part occurs in every text in which it occurs exactly when none of its sigmas is
exposed. -/
theorem lower_occurs_iff (part : String) :
    (∀ whole : String, part.toList <:+: whole.toList → (lower part).toList <:+: (lower whole).toList) ↔
      ¬ SigmaExposed part.toList := by
  simp only [lower, String.toList_ofList]
  constructor
  · intro found exposed
    obtain ⟨front, back, lost⟩ := exists_lost_of_exposed exposed
    have text := found (String.ofList (front ++ part.toList ++ back))
    rw [String.toList_ofList] at text
    exact lost (text (List.infix_append _ _ _))
  · exact fun settled whole occurs => lowerAfter_infix_of_not_exposed settled occurs

end LiveMarkup.Text
