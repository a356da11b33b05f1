import LiveMarkup.Proofs.Files.Path
import LiveMarkup.Site.Response

/-!
# Requests stay in the folder

Whatever is requested, a preview looks only at paths below its folder: of the files, whatever they are and
however they answer, it asks for no path that starts elsewhere or climbs out of the folder
(`Preview.requests_stay_below`). What a program asks for is read off its run on files that keep a record
of the paths (`Watched`).
-/

set_option autoImplicit false

namespace LiveMarkup

/-! ## Files that keep a record -/

/-- The state of a place where files are kept, and the paths it was asked about, in order. -/
structure Watched (σ : Type) where
  state : σ
  asked : List String

namespace Watched

variable {σ α β : Type}

/-- An operation on a path that is put on record. -/
def ask (path : String) (operation : StateM σ α) : StateM (Watched σ) α := fun watched =>
  let (answer, state) := operation.run watched.state
  (answer, ⟨state, watched.asked ++ [path]⟩)

instance [FileStore (StateM σ)] : FileStore (StateM (Watched σ)) where
  read path := ask path (FileStore.read path)
  write path bytes := ask path (FileStore.write path bytes)
  isFile path := ask path (FileStore.isFile path)
  list path := ask path (FileStore.list path)
  resolve path := ask path (FileStore.resolve path)

/-- A run that is recorded gives what the run without a record gives, and has asked for such paths only. -/
def Records (allowed : String → Prop) (watched : StateM (Watched σ) α) (plain : StateM σ α) : Prop :=
  ∀ state asked, ∃ more,
    watched.run ⟨state, asked⟩ = ((plain.run state).1, ⟨(plain.run state).2, asked ++ more⟩) ∧
      ∀ path ∈ more, allowed path

variable {allowed : String → Prop}

theorem Records.pure (value : α) :
    Records allowed (Pure.pure value : StateM (Watched σ) α) (Pure.pure value) :=
  fun state asked => ⟨[], by rw [List.append_nil]; rfl, fun _ member => absurd member List.not_mem_nil⟩

/-- What comes next is recorded from each value that the first run can return. -/
theorem Records.bind_returned {watched : StateM (Watched σ) α} {plain : StateM σ α}
    {watchedNext : α → StateM (Watched σ) β} {next : α → StateM σ β}
    (first : Records allowed watched plain)
    (second : ∀ state value, (plain.run state).1 = value → Records allowed (watchedNext value) (next value)) :
    Records allowed (watched >>= watchedNext) (plain >>= next) := by
  intro state asked
  obtain ⟨before, ran, allowedBefore⟩ := first state asked
  obtain ⟨behind, ranNext, allowedBehind⟩ :=
    second state _ rfl (plain.run state).2 (asked ++ before)
  refine ⟨before ++ behind, ?_, fun path member => ?_⟩
  · -- The second run starts with the record of the first one.
    rw [StateT.run_bind, ran]
    exact ranNext.trans (by rw [List.append_assoc]; rfl)
  · exact (List.mem_append.mp member).elim (allowedBefore path) (allowedBehind path)

theorem Records.bind {watched : StateM (Watched σ) α} {plain : StateM σ α}
    {watchedNext : α → StateM (Watched σ) β} {next : α → StateM σ β}
    (first : Records allowed watched plain)
    (second : ∀ value, Records allowed (watchedNext value) (next value)) :
    Records allowed (watched >>= watchedNext) (plain >>= next) :=
  first.bind_returned fun _ value _ => second value

theorem Records.ask {path : String} (allows : allowed path) (operation : StateM σ α) :
    Records allowed (Watched.ask path operation) operation :=
  fun _ _ => ⟨[path], rfl, fun _ member => List.mem_singleton.mp member ▸ allows⟩

end Watched

namespace Preview

open Watched

variable {σ : Type} [FileStore (StateM σ)] {preview : Preview} {path spec : String}

/-! ## Paths that are asked for -/

/-- The specification that is looked for has the name that was asked for, or that name without its
ending. -/
theorem candidate?_eq_some (named : preview.candidate? path = some spec) :
    ∃ name ending, path = name ++ ending ∧ '/' ∉ ending.toList ∧ name ≠ "" ∧
      spec = Path.join preview.root (name ++ ".json") := by
  rw [candidate?] at named
  split at named
  · rename_i front reversed
    obtain ⟨given, found⟩ := Option.ite_none_left_eq_some.mp named
    have text : path.toList = front.reverse ++ ".html".toList := by
      rw [← List.reverse_reverse path.toList, reversed]
      simp
    refine ⟨String.ofList front.reverse, ".html", ?_, by decide, by simpa using given,
      (Option.some.inj found).symm⟩
    rw [← String.toList_inj, String.toList_append, String.toList_ofList, text]
  · obtain ⟨given, found⟩ := Option.ite_none_left_eq_some.mp named
    exact ⟨path, "", String.append_empty.symm, List.not_mem_nil, by simpa using given,
      (Option.some.inj found).symm⟩

/-- The specification that is looked for is a path of its own below the folder. -/
theorem inner_of_candidate? (inner : Path.Inner path) (named : preview.candidate? path = some spec) :
    ∃ name, spec = Path.join preview.root name ∧ Path.Inner name ∧ Path.steps name ≠ [] := by
  obtain ⟨name, ending, rfl, flat, given, rfl⟩ := candidate?_eq_some named
  exact ⟨name ++ ".json", rfl, inner.rename given flat (by decide) ⟨'n', rfl, by decide⟩⟩

theorem inner_fileName : Path.Inner ProjectConfig.fileName := ⟨by decide, by decide⟩

/-- The configuration for a specification below the folder is below it as well. -/
theorem below_configPath {name : String} (inner : Path.Inner name) (leads : Path.steps name ≠ []) :
    Path.Below preview.root (preview.configPath (Path.join preview.root name)) := by
  rw [configPath]
  cases inside : Path.parent? (Path.join preview.root name) with
  | none => exact inner_fileName.below preview.root
  | some folder =>
    exact Path.Below.sibling inside (Path.isAbsolute_join inner.1 _) (Path.steps_join inner.1 _) leads
      (Path.not_climbs_of_inner inner) inner_fileName

/-! ## Answers -/

variable {allowed : String → Prop}

theorem records_isSpec (allows : allowed spec) :
    Records allowed (isSpec (m := StateM (Watched σ)) spec) (isSpec spec) :=
  .bind (.ask allows _) fun _ => .pure _

theorem records_source (allows : allowed spec) (allowsConfig : allowed (preview.configPath spec)) :
    Records allowed (preview.source (m := StateM (Watched σ)) spec) (preview.source spec) := by
  refine .bind (.ask allows _) fun read => ?_
  cases (Activity.reading spec).orFail .file read with
  | error failure => exact .pure _
  | ok bytes =>
    refine .bind (.ask allowsConfig _) fun config => ?_
    cases config with
    | error error => exact .pure _
    | ok config => exact .pure _

theorem records_page (allows : allowed spec) (allowsConfig : allowed (preview.configPath spec)) :
    Records allowed (preview.page (m := StateM (Watched σ)) spec) (preview.page spec) := by
  refine .bind (records_source allows allowsConfig) fun source => ?_
  cases source with
  | error failure => exact .pure _
  | ok source => exact .pure _

theorem records_answerFile (allows : allowed path) :
    Records allowed (answerFile (m := StateM (Watched σ)) path) (answerFile path) := by
  refine .bind (.ask allows _) fun read => ?_
  cases read with
  | error error => exact .pure _
  | ok bytes => exact .pure _

theorem records_specFor (allows : ∀ spec, preview.candidate? path = some spec → allowed spec) :
    Records allowed (preview.specFor (m := StateM (Watched σ)) path) (preview.specFor path) := by
  rw [specFor, specFor]
  cases named : preview.candidate? path with
  | none => exact .pure _
  | some spec => exact .bind (records_isSpec (allows spec named)) fun _ => .pure _

/-- A specification that is found is the one that was looked for. -/
theorem candidate?_of_specFor {state : σ}
    (found : ((preview.specFor (m := StateM σ) path).run state).1 = some spec) :
    preview.candidate? path = some spec := by
  rw [specFor] at found
  cases named : preview.candidate? path with
  | none =>
    rw [named] at found
    cases found
  | some looked =>
    rw [named, StateT.run_bind] at found
    exact (Option.ite_none_right_eq_some.mp found).2

theorem records_answerPath (inner : Path.Inner path) :
    Records (Path.Below preview.root) (preview.answerPath (m := StateM (Watched σ)) path)
      (preview.answerPath path) := by
  have looked : ∀ spec, preview.candidate? path = some spec →
      Path.Below preview.root spec ∧ Path.Below preview.root (preview.configPath spec) := by
    intro spec named
    obtain ⟨name, rfl, innerName, leads⟩ := inner_of_candidate? inner named
    exact ⟨innerName.below preview.root, below_configPath innerName leads⟩
  -- The page is made of the specification that was looked for, and not of any other path.
  refine .bind_returned (records_specFor fun spec named => (looked spec named).1)
    fun state found returned => ?_
  cases found with
  | some spec =>
    obtain ⟨below, belowConfig⟩ := looked spec (candidate?_of_specFor returned)
    exact .bind (records_page below belowConfig) fun _ => .pure _
  | none =>
    have below := inner.below preview.root
    refine .bind (.ask below _) fun there => ?_
    cases there with
    | false => exact .pure _
    | true => exact .bind (records_answerFile below) fun _ => .pure _

theorem records_answer {target : String} (served : Response.targetPath target ≠ "/") :
    Records (Path.Below preview.root) (preview.answer (m := StateM (Watched σ)) target)
      (preview.answer target) := by
  rw [answer, answer, if_neg (by simpa using served), if_neg (by simpa using served)]
  split
  · exact .pure _
  · split
    · exact .pure _
    · rename_i path accepted
      exact records_answerPath (Path.inner_of_relative? accepted)

/-- A request cannot leave the folder. A requested path is refused exactly when one of its parts climbs.
Otherwise neither the path nor the name of the specification that is looked for, in place of the ending
or behind it, starts at the root or climbs, so that both are below the folder. And whatever the files
answer, every path that is looked at to answer a target other than the index is below the folder, the
one of the configuration beside a specification included. -/
theorem requests_stay_below (preview : Preview) :
    (∀ requested, Path.relative? requested = none ↔ ".." ∈ Path.parts requested) ∧
      (∀ requested path, Path.relative? requested = some path →
        (Path.Inner path ∧ Path.Below preview.root (Path.join preview.root path)) ∧
          ∀ spec, preview.candidate? path = some spec →
            ∃ name, spec = Path.join preview.root name ∧ Path.Inner name ∧
              Path.Below preview.root spec) ∧
      ∀ target, Response.targetPath target ≠ "/" → ∀ state : σ,
        let answered := (preview.answer target : StateM σ _).run state
        ∃ asked, (preview.answer target : StateM (Watched σ) _).run ⟨state, []⟩ =
            (answered.1, ⟨answered.2, asked⟩) ∧
          ∀ path ∈ asked, Path.Below preview.root path := by
  refine ⟨fun _ => Path.relative?_eq_none_iff, fun requested path accepted => ?_,
    fun target served state => ?_⟩
  · have inner := Path.inner_of_relative? accepted
    refine ⟨⟨inner, inner.below preview.root⟩, fun spec named => ?_⟩
    obtain ⟨name, rfl, innerName, -⟩ := inner_of_candidate? inner named
    exact ⟨name, rfl, innerName, innerName.below preview.root⟩
  · have recorded : Records (Path.Below preview.root)
        (preview.answer (m := StateM (Watched σ)) target) (preview.answer target) :=
      records_answer served
    obtain ⟨asked, ran, below⟩ := recorded state []
    rw [List.nil_append] at ran
    exact ⟨asked, ran, below⟩

-- Names of dots and of the ending alone are names as any other.
example : [".html", "...html", "a/.html", "./a//b.html.html"].map (Preview.ofFolder "/srv").candidate? =
    [none, some "/srv/...json", some "/srv/a/.json", some "/srv/./a//b.html.json"] := by decide

end Preview

end LiveMarkup
