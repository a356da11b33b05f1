import LiveMarkup.Proofs.Files.Tree
import LiveMarkup.Proofs.Text.Split

/-!
# Paths below a folder

Where a path leads is read off its text: `Path.steps` are the parts that lead somewhere, and a path is
below a folder when it takes the steps of the folder first and never climbs behind them
(`Path.Below`). Joining adds steps (`Path.steps_join`), and the folder that a path is in takes all steps
but the last (`Path.steps_of_parent?`). What `Path.relative?` lets through is below any folder
(`Path.relative?_eq_none_iff`, `Path.inner_of_relative?`).
-/

set_option autoImplicit false

namespace LiveMarkup.Path

variable {path root : String}

/-! ## Parts -/

theorem parts_ne_nil (path : String) : parts path ≠ [] := by
  rw [parts, Text.split_eq]
  exact mt List.map_eq_nil_iff.mp (List.splitOn_ne_nil _ _)

theorem parts_append (front back : String) :
    parts (front ++ "/" ++ back) = parts front ++ parts back := Text.split_append rfl front back

theorem parts_empty : parts "" = [""] := rfl

theorem ofList_slash (cs : List Char) : String.ofList ('/' :: cs) = "/" ++ String.ofList cs :=
  String.toList_inj.mp (by simp)

theorem parts_slash (path : String) : parts ("/" ++ path) = "" :: parts path := by
  rw [← String.empty_append (s := "/"), parts_append, parts_empty, List.singleton_append]

theorem flat_of_mem_parts {part : String} (member : part ∈ parts path) : '/' ∉ part.toList :=
  Text.not_mem_of_mem_split member

theorem parts_intercalate {pieces : List String} (given : pieces ≠ [])
    (flat : ∀ piece ∈ pieces, '/' ∉ piece.toList) : parts ("/".intercalate pieces) = pieces :=
  Text.split_intercalate rfl given flat

theorem isAbsolute_slash (path : String) : isAbsolute ("/" ++ path) = true := by
  rw [isAbsolute, String.toList_append]
  rfl

/-- A path starts at the root exactly when its first part is empty and others stand behind it. -/
theorem isAbsolute_iff : isAbsolute path = true ↔ ∃ first rest, parts path = "" :: first :: rest := by
  constructor
  · intro absolute
    rw [isAbsolute, beq_iff_eq, List.head?_eq_some_iff] at absolute
    obtain ⟨rest, text⟩ := absolute
    have slash : path = "/" ++ String.ofList rest := by
      rw [← ofList_slash, ← text, String.ofList_toList]
    obtain ⟨first, others, split⟩ := List.exists_cons_of_ne_nil (parts_ne_nil (String.ofList rest))
    exact ⟨first, others, by rw [slash, parts_slash, split]⟩
  · rintro ⟨first, rest, split⟩
    have joined : "/".intercalate (parts path) = path := Text.intercalate_split rfl path
    rw [← joined, split, String.intercalate_cons_cons, String.empty_append]
    exact isAbsolute_slash _

theorem intercalate_concat (above : List String) (last behind : String) :
    "/".intercalate (above ++ [last ++ behind]) = "/".intercalate (above ++ [last]) ++ behind := by
  induction above with
  | nil => rfl
  | cons first rest ih =>
    rw [List.cons_append, List.cons_append, String.intercalate_cons_of_ne_nil (by simp),
      String.intercalate_cons_of_ne_nil (by simp), ih]
    exact (String.append_assoc).symm

/-- What is written behind a path belongs to its last part, unless it holds a slash. -/
theorem parts_append_flat {behind : String} (flat : '/' ∉ behind.toList) (name : String) :
    ∃ above last, parts name = above ++ [last] ∧ parts (name ++ behind) = above ++ [last ++ behind] := by
  obtain ⟨above, last, split⟩ : ∃ above last, parts name = above ++ [last] :=
    ⟨_, _, (List.dropLast_concat_getLast (parts_ne_nil name)).symm⟩
  refine ⟨above, last, split, ?_⟩
  have joined : "/".intercalate (parts name) = name := Text.intercalate_split rfl name
  rw [← joined, split, ← intercalate_concat]
  refine parts_intercalate (by simp) fun piece member => ?_
  rcases List.mem_append.mp member with inner | ends
  · exact flat_of_mem_parts (split ▸ List.mem_append_left _ inner)
  · obtain rfl := List.mem_singleton.mp ends
    have plain : '/' ∉ last.toList := flat_of_mem_parts (split ▸ List.mem_append_right _ List.mem_cons_self)
    rw [String.toList_append, List.mem_append]
    exact not_or.mpr ⟨plain, flat⟩

/-! ## Steps -/

/-- The parts among these that lead somewhere. -/
def moving (pieces : List String) : List String := pieces.filter fun part => !stays part

/-- The parts of a path that lead somewhere. -/
def steps (path : String) : List String := moving (parts path)

/-- Whether a path leads below a folder by its text: it begins where the folder begins, takes the steps
of the folder and does not climb behind them. -/
def Below (root path : String) : Prop :=
  isAbsolute path = isAbsolute root ∧ ∃ rest, steps path = steps root ++ rest ∧ ".." ∉ rest

/-- Whether a path neither starts at the root nor climbs. -/
def Inner (path : String) : Prop := isAbsolute path = false ∧ ".." ∉ parts path

theorem moving_append (front back : List String) :
    moving (front ++ back) = moving front ++ moving back := List.filter_append front back

theorem steps_empty : steps "" = [] := by rw [steps, parts_empty]; rfl

theorem steps_append (front back : String) :
    steps (front ++ "/" ++ back) = steps front ++ steps back := by
  rw [steps, parts_append, moving_append]
  rfl

theorem steps_slash (path : String) : steps ("/" ++ path) = steps path := by
  rw [← String.empty_append (s := "/"), steps_append, steps_empty, List.nil_append]

theorem steps_intercalate {pieces : List String} (flat : ∀ piece ∈ pieces, '/' ∉ piece.toList) :
    steps ("/".intercalate pieces) = moving pieces := by
  by_cases given : pieces = []
  · subst given
    exact steps_empty
  · rw [steps, parts_intercalate given flat]

theorem not_climbs_of_inner (inner : Inner path) : ".." ∉ steps path :=
  fun member => inner.2 (List.mem_of_mem_filter member)

/-- Joining takes the steps of the folder, then those of the path. -/
theorem steps_join {path : String} (relative : isAbsolute path = false) (root : String) :
    steps (join root path) = steps root ++ steps path := by
  rw [join, relative, Bool.false_or]
  split
  · rename_i empty
    obtain rfl := beq_iff_eq.mp empty
    rw [steps_empty, List.nil_append]
  · split
    · rename_i _ slash
      -- The slash at the end of the folder has only an empty part behind it.
      obtain ⟨front, text⟩ := List.getLast?_eq_some_iff.mp (beq_iff_eq.mp slash)
      have closed : root = String.ofList front ++ "/" := by
        rw [← String.toList_inj, text, String.toList_append, String.toList_ofList]
        rfl
      have same : steps root = steps (String.ofList front) := by
        rw [closed, ← String.append_empty (s := String.ofList front ++ "/"), steps_append, steps_empty,
          List.append_nil]
      rw [same, closed, steps_append]
    · exact steps_append root path

theorem isAbsolute_append {front : String} (given : front ≠ "") (back : String) :
    isAbsolute (front ++ back) = isAbsolute front := by
  rw [isAbsolute, isAbsolute, String.toList_append]
  cases text : front.toList with
  | nil => exact absurd (String.toList_eq_nil_iff.mp text) given
  | cons c rest => rfl

theorem isAbsolute_join {path : String} (relative : isAbsolute path = false) (root : String) :
    isAbsolute (join root path) = isAbsolute root := by
  rw [join, relative, Bool.false_or]
  split
  · rename_i empty
    obtain rfl := beq_iff_eq.mp empty
    exact relative
  · rename_i given
    have given : root ≠ "" := fun empty => given (beq_iff_eq.mpr empty)
    split
    · exact isAbsolute_append given path
    · rw [String.append_assoc]
      exact isAbsolute_append given _

theorem Inner.below {path : String} (inner : Inner path) (root : String) : Below root (join root path) :=
  ⟨isAbsolute_join inner.1 root, steps path, steps_join inner.1 root, not_climbs_of_inner inner⟩

/-! ## Requested paths -/

/-- Slashes in front of a path add empty parts only. -/
theorem climbs_dropWhile_iff (cs : List Char) :
    ".." ∈ parts (String.ofList (cs.dropWhile (· == '/'))) ↔ ".." ∈ parts (String.ofList cs) := by
  induction cs with
  | nil => rfl
  | cons c rest ih =>
    by_cases slash : c = '/'
    · have text : String.ofList (c :: rest) = "/" ++ String.ofList rest := by
        rw [slash, ofList_slash]
      have apart : ".." ≠ "" := by decide
      have dropped : (c :: rest).dropWhile (· == '/') = rest.dropWhile (· == '/') :=
        List.dropWhile_cons_of_pos (beq_iff_eq.mpr slash)
      rw [dropped, ih, text, parts_slash, List.mem_cons]
      exact (or_iff_right apart).symm
    · have kept : (c :: rest).dropWhile (· == '/') = c :: rest :=
        List.dropWhile_cons_of_neg (mt beq_iff_eq.mp slash)
      rw [kept]

/-- A requested path is refused exactly when one of its parts climbs. -/
theorem relative?_eq_none_iff {requested : String} :
    relative? requested = none ↔ ".." ∈ parts requested := by
  have climbs := climbs_dropWhile_iff requested.toList
  rw [String.ofList_toList] at climbs
  rw [relative?, ← climbs, ← List.contains_iff_mem]
  split
  · rename_i refused
    exact iff_of_true rfl refused
  · rename_i accepted
    exact iff_of_false (Option.some_ne_none _) accepted

theorem inner_of_relative? {requested : String} (accepted : relative? requested = some path) :
    Inner path := by
  rw [relative?] at accepted
  split at accepted
  · cases accepted
  · rename_i climbs
    obtain rfl := Option.some.inj accepted
    rw [List.contains_iff_mem] at climbs
    refine ⟨?_, climbs⟩
    rw [isAbsolute, String.toList_ofList]
    cases text : requested.toList.dropWhile (· == '/') with
    | nil => rfl
    | cons c rest =>
      have head := List.head_dropWhile_not (· == '/') (by rw [text]; exact List.cons_ne_nil c rest)
      simpa [text] using head

/-- A part that a name without a dot at its end is written behind leads somewhere and does not climb. -/
theorem moves_append {new : String} (ends : ∃ c ∈ new.toList.getLast?, c ≠ '.') (last : String) :
    stays (last ++ new) = false ∧ last ++ new ≠ ".." := by
  obtain ⟨c, ending, other⟩ := ends
  have whole : (last ++ new).toList.getLast? = some c := by
    rw [String.toList_append, List.getLast?_append, ending]
    rfl
  have differs : ∀ text : String, text.toList.getLast? ≠ some c → last ++ new ≠ text := by
    rintro text apart rfl
    exact apart whole
  have dot : some '.' ≠ some c := fun same => other (Option.some.inj same).symm
  refine ⟨Bool.eq_false_iff.mpr fun still => ?_, differs ".." dot⟩
  rw [stays, Bool.or_eq_true, beq_iff_eq, beq_iff_eq] at still
  rcases still with empty | here
  · exact differs "" (Option.some_ne_none c).symm empty
  · exact differs "." dot here

/-- Another ending in place of the one of a path's last part leaves it a path that does not climb. -/
theorem Inner.rename {name ending new : String} (inner : Inner (name ++ ending)) (given : name ≠ "")
    (flat : '/' ∉ ending.toList) (flatNew : '/' ∉ new.toList) (ends : ∃ c ∈ new.toList.getLast?, c ≠ '.') :
    Inner (name ++ new) ∧ steps (name ++ new) ≠ [] := by
  obtain ⟨above, last, split, old⟩ := parts_append_flat flat name
  obtain ⟨above', last', split', renamed⟩ := parts_append_flat flatNew name
  obtain ⟨rfl, same⟩ := List.append_inj' (split.symm.trans split') rfl
  obtain rfl := (List.cons.inj same).1
  obtain ⟨moves, plain⟩ := moves_append ends last
  have relative := inner.1
  have climbs := inner.2
  rw [isAbsolute_append given] at relative
  rw [old, List.mem_append, not_or] at climbs
  -- Only the last part is another one.
  refine ⟨⟨(isAbsolute_append given new).trans relative, ?_⟩, ?_⟩
  · rw [renamed, List.mem_append, List.mem_singleton, not_or]
    exact ⟨climbs.1, plain.symm⟩
  · have step : last ++ new ∈ steps (name ++ new) := by
      refine List.mem_filter.mpr ⟨?_, by rw [moves]; rfl⟩
      rw [renamed]
      exact List.mem_append_right _ List.mem_cons_self
    exact List.ne_nil_of_mem step

/-! ## The folder that a path is in -/

theorem moving_dropWhile (pieces : List String) : moving (pieces.dropWhile stays) = moving pieces := by
  induction pieces with
  | nil => rfl
  | cons piece rest ih =>
    -- Only parts that stay where they are have been dropped.
    cases still : stays piece with
    | true =>
      have passed : moving (piece :: rest) = moving rest :=
        List.filter_cons_of_neg (by rw [still]; exact Bool.false_ne_true)
      rw [List.dropWhile_cons_of_pos still, ih, passed]
    | false => rw [List.dropWhile_cons_of_neg (by rw [still]; exact Bool.false_ne_true)]

theorem moving_reverse (pieces : List String) : moving pieces.reverse = (moving pieces).reverse :=
  List.filter_reverse

theorem moving_trimParts (pieces : List String) : moving (trimParts pieces) = moving pieces := by
  rw [trimParts, moving_reverse, moving_dropWhile, moving_reverse, List.reverse_reverse]

theorem isPrefix_trimParts (pieces : List String) : trimParts pieces <+: pieces :=
  List.rdropWhile_prefix stays pieces

/-- The parts above the last one that leads somewhere. -/
def above (pieces : List String) : List String := trimParts (trimParts pieces).dropLast

theorem isPrefix_above (pieces : List String) : above pieces <+: pieces :=
  (isPrefix_trimParts _).trans ((List.dropLast_prefix _).trans (isPrefix_trimParts pieces))

theorem moving_above (pieces : List String) : moving (above pieces) = (moving pieces).dropLast := by
  rw [above, moving_trimParts, ← moving_trimParts pieces]
  by_cases trimmed : trimParts pieces = []
  · rw [trimmed]
    rfl
  · -- The last part that is left leads somewhere, so it is the last step.
    have last : stays ((trimParts pieces).getLast trimmed) = false :=
      Bool.eq_false_iff.mpr (List.rdropWhile_last_not stays pieces trimmed)
    have single : moving [(trimParts pieces).getLast trimmed] = [(trimParts pieces).getLast trimmed] :=
      List.filter_cons_of_pos (by rw [last]; rfl)
    have split := moving_append (trimParts pieces).dropLast [(trimParts pieces).getLast trimmed]
    rw [List.dropLast_concat_getLast, single] at split
    rw [split, List.dropLast_concat]

/-- How a path begins, in its parts. -/
theorem start_cases (path : String) :
    (∃ first rest, parts path = "" :: first :: rest ∧ start path = (.root, first :: rest)) ∨
      (∃ rest, parts path = "." :: rest ∧ start path = (.here, rest)) ∨
      isAbsolute path = false ∧ start path = (.part, parts path) := by
  rw [start]
  split
  · rename_i first rest split
    exact .inl ⟨first, rest, split, rfl⟩
  · rename_i rest split
    exact .inr (.inl ⟨rest, split, rfl⟩)
  · rename_i other _
    refine .inr (.inr ⟨Bool.eq_false_iff.mpr fun absolute => ?_, rfl⟩)
    obtain ⟨first, rest, split⟩ := isAbsolute_iff.mp absolute
    exact other first rest split

theorem flat_of_mem_above {pieces : List String} (flat : ∀ piece ∈ pieces, '/' ∉ piece.toList) :
    ∀ piece ∈ above pieces, '/' ∉ piece.toList :=
  fun piece member => flat piece ((isPrefix_above pieces).subset member)

theorem steps_above {pieces : List String} (flat : ∀ piece ∈ pieces, '/' ∉ piece.toList) :
    steps ("/".intercalate (above pieces)) = (moving pieces).dropLast := by
  rw [steps_intercalate (flat_of_mem_above flat), moving_above]

/-- The parts above the last one of a path that does not start at the root do not start there. -/
theorem isAbsolute_above (relative : isAbsolute path = false) :
    isAbsolute ("/".intercalate (above (parts path))) = false := by
  refine Bool.eq_false_iff.mpr fun absolute => ?_
  obtain ⟨first, rest, split⟩ := isAbsolute_iff.mp absolute
  by_cases given : above (parts path) = []
  · rw [given] at absolute
    cases absolute
  · have flat := flat_of_mem_above fun piece => @flat_of_mem_parts path piece
    rw [parts_intercalate given flat] at split
    obtain ⟨behind, whole⟩ := isPrefix_above (parts path)
    rw [split] at whole
    have starts : isAbsolute path = true := isAbsolute_iff.mpr ⟨first, rest ++ behind, whole.symm⟩
    rw [relative] at starts
    cases starts

theorem parent?_of_root {body : List String} (begins : start path = (.root, body)) :
    parent? path = if (trimParts body).isEmpty then none else some ("/" ++ "/".intercalate (above body)) := by
  rw [parent?, begins, above]
  dsimp only
  cases trimParts body <;> rfl

theorem parent?_of_here {body : List String} (begins : start path = (.here, body)) :
    parent? path =
      if (trimParts body).isEmpty then some ""
      else some (if (above body).isEmpty then "." else "./" ++ "/".intercalate (above body)) := by
  rw [parent?, begins, above]
  dsimp only
  cases trimParts body <;> rfl

theorem parent?_of_part {body : List String} (begins : start path = (.part, body)) :
    parent? path = if (trimParts body).isEmpty then none else some ("/".intercalate (above body)) := by
  rw [parent?, begins, above]
  dsimp only
  cases trimParts body <;> rfl

/-- The folder that a path is in begins where the path does and takes all its steps but the last. -/
theorem steps_of_parent? {folder : String} (inside : parent? path = some folder) :
    isAbsolute folder = isAbsolute path ∧ steps folder = (steps path).dropLast := by
  have flat : ∀ piece ∈ parts path, '/' ∉ piece.toList := fun piece => flat_of_mem_parts
  rcases start_cases path with ⟨first, rest, split, begins⟩ | ⟨rest, split, begins⟩ |
    ⟨relative, begins⟩
  · have absolute : isAbsolute path = true := isAbsolute_iff.mpr ⟨first, rest, split⟩
    have body : steps path = moving (first :: rest) := by
      rw [steps, split]
      rfl
    rw [parent?_of_root begins, Option.ite_none_left_eq_some] at inside
    obtain rfl := Option.some.inj inside.2
    rw [split, List.forall_mem_cons] at flat
    rw [isAbsolute_slash, absolute, steps_slash, steps_above flat.2, body]
    exact ⟨rfl, rfl⟩
  · have relative : isAbsolute path = false := by
      refine Bool.eq_false_iff.mpr fun absolute => ?_
      obtain ⟨first, others, empty⟩ := isAbsolute_iff.mp absolute
      rw [split] at empty
      exact absurd (List.cons.inj empty).1 (by decide)
    have body : steps path = moving rest := by
      rw [steps, split]
      rfl
    rw [split, List.forall_mem_cons] at flat
    have taken := steps_above flat.2
    rw [parent?_of_here begins] at inside
    rw [relative, body, ← taken]
    have still : steps "." = [] := rfl
    split at inside
    · rename_i trimmed
      obtain rfl := Option.some.inj inside
      have nothing : above rest = [] := by
        rw [above, List.isEmpty_iff.mp trimmed]
        rfl
      rw [nothing]
      exact ⟨rfl, rfl⟩
    · obtain rfl := Option.some.inj inside
      -- The leading dot stays in front of what is left, and alone when nothing is.
      split
      · rename_i nothing
        rw [List.isEmpty_iff.mp nothing]
        exact ⟨rfl, still.trans steps_empty.symm⟩
      · have dotted : "./" = "." ++ "/" := rfl
        rw [dotted, steps_append, still, List.nil_append, String.append_assoc,
          isAbsolute_append (by decide)]
        exact ⟨rfl, rfl⟩
  · rw [parent?_of_part begins, Option.ite_none_left_eq_some] at inside
    obtain rfl := Option.some.inj inside.2
    rw [isAbsolute_above relative, relative, steps_above flat, steps]
    exact ⟨rfl, rfl⟩

/-- What is in the same folder as a path below the root, which is not the root itself, is below it. -/
theorem Below.sibling {folder name : String} (inside : parent? path = some folder)
    {rest : List String} (begins : isAbsolute path = isAbsolute root)
    (taken : steps path = steps root ++ rest) (given : rest ≠ []) (climbs : ".." ∉ rest)
    (inner : Inner name) : Below root (join folder name) := by
  obtain ⟨same, above⟩ := steps_of_parent? inside
  rw [taken, List.dropLast_append_of_ne_nil given] at above
  refine ⟨?_, rest.dropLast ++ steps name, ?_, ?_⟩
  · rw [isAbsolute_join inner.1, same, begins]
  · rw [steps_join inner.1, above, List.append_assoc]
  · rw [List.mem_append, not_or]
    exact ⟨fun member => climbs ((List.dropLast_prefix rest).subset member), not_climbs_of_inner inner⟩

end LiveMarkup.Path
