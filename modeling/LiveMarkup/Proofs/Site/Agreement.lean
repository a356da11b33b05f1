import LiveMarkup.Proofs.Files.Tree
import LiveMarkup.Proofs.Site.Visits

/-!
# Previews and compilations

A page that is asked for and a page that is compiled are made from the same two files, which are read in
two ways. The preview takes a configuration that it cannot read or that has no bytes for none at all, and
replaces what is broken in it; a compilation wants a file that is there to be text, and JSON. So whatever
compiles is shown as it compiles, and what is shown compiles exactly where the configuration is one for
both, `Site.Configured` (`Site.compiled_iff_page`).
-/

set_option autoImplicit false

namespace LiveMarkup

theorem bind_eq_ok_iff {ε α β : Type} {result : Except ε α} {next : α → Except ε β} {value : β} :
    result.bind next = .ok value ↔ ∃ first, result = .ok first ∧ next first = .ok value := by
  cases result <;> simp [Except.bind]

theorem map_eq_ok_iff {ε α β : Type} {result : Except ε α} {f : α → β} {value : β} :
    result.map f = .ok value ↔ ∃ first, result = .ok first ∧ f first = value := by
  cases result <;> simp [Except.map]

theorem Utf8.read_of_isEmpty {bytes : ByteArray} (none : bytes.isEmpty) : read bytes = .ok "" := by
  obtain rfl : bytes = .empty := by
    rw [ByteArray.isEmpty, beq_iff_eq] at none
    exact ByteArray.size_eq_zero_iff.mp none
  decide +kernel

theorem FileStore.textOf_eq_ok_iff {bytes : ByteArray} {text : String} :
    textOf bytes = .ok text ↔ Utf8.read bytes = .ok text := by
  rw [textOf]
  cases Utf8.read bytes <;> simp [Except.mapError]

namespace ProjectConfig

variable {tree : FileTree} {spec : String} {config : ProjectConfig}

/-! ## The configuration of a compilation -/

theorem ofText?_empty : ofText? "" = none := by decide +kernel

/-- What a compilation takes for the configuration: the one in the file, which is text, or none where
there is no file. -/
inductive Taken (tree : FileTree) (spec : String) : ProjectConfig → Prop where
  | absent (unread : ∀ bytes, tree.read (pathFor spec) ≠ .ok bytes) : Taken tree spec empty
  | written {bytes : ByteArray} {text : String} {config : ProjectConfig}
      (there : tree.read (pathFor spec) = .ok bytes) (read : Utf8.read bytes = .ok text)
      (given : ofText? text = some config) : Taken tree spec config

theorem run_forSpec (tree : FileTree) (spec : String) :
    (forSpec spec : StateM FileTree _).run tree =
      ((if tree.isFile (pathFor spec) then
          ((Activity.reading (pathFor spec)).orFail .file
            ((tree.read (pathFor spec)).bind FileStore.textOf)).bind fun text =>
              match ofText? text with
              | some config => .ok config
              | none => .error ⟨[.configuring (pathFor spec)], .json⟩
        else .ok empty), tree) := by
  rw [forSpec, StateT.run_bind, FileTree.run_isFile]
  cases tree.isFile (pathFor spec) <;> rfl

theorem forSpec_eq_ok_iff :
    ((forSpec spec : StateM FileTree _).run tree).1 = .ok config ↔ Taken tree spec config := by
  rw [run_forSpec]
  dsimp only
  by_cases file : tree.isFile (pathFor spec) = true
  · rw [if_pos file]
    obtain ⟨bytes, there⟩ := FileTree.isFile_iff.mp file
    simp only [bind_eq_ok_iff, Activity.orFail_eq_ok_iff, there, Except.ok.injEq,
      exists_eq_left', FileStore.textOf_eq_ok_iff]
    constructor
    · rintro ⟨text, read, given⟩
      split at given
      · rename_i config found
        cases given
        exact .written there read found
      · cases given
    · intro taken
      cases taken with
      | absent unread => exact absurd there (unread bytes)
      | written there' read given =>
        cases there.symm.trans there'
        exact ⟨_, read, by rw [given]⟩
  · rw [if_neg file]
    have unread : ∀ bytes, tree.read (pathFor spec) ≠ .ok bytes := fun bytes there =>
      file (FileTree.isFile_iff.mpr ⟨bytes, there⟩)
    constructor
    · intro taken
      cases taken
      exact .absent unread
    · intro taken
      cases taken with
      | absent => rfl
      | written there => exact absurd there (unread _)

theorem run_withSpec (tree : FileTree) (spec : String) :
    (withSpec spec : StateM FileTree _).run tree =
      (((Activity.reading spec).orFail .file ((tree.read spec).bind FileStore.textOf)).bind fun text =>
        ((forSpec spec : StateM FileTree _).run tree).1.map fun config => (text, config), tree) := by
  rw [withSpec, StateT.run_bind, FileTree.run_readText]
  dsimp only [Bind.bind]
  cases (Activity.reading spec).orFail Cause.file ((tree.read spec).bind FileStore.textOf) with
  | error failure => rfl
  | ok text =>
    show StateT.run ((forSpec spec : StateM FileTree _) >>= _) tree = _
    rw [StateT.run_bind, run_forSpec]
    rfl

theorem run_compileFile (tree : FileTree) (options : CompileOptions) (spec : String) :
    (compileFile options spec : StateM FileTree _).run tree =
      (((withSpec spec : StateM FileTree _).run tree).1.bind fun loaded =>
        (Activity.compiling spec).around (loaded.2.compile options loaded.1), tree) := by
  rw [compileFile, StateT.run_bind, run_withSpec]
  rfl

theorem withSpec_eq_ok_iff {loaded : String × ProjectConfig} :
    ((withSpec spec : StateM FileTree _).run tree).1 = .ok loaded ↔
      (∃ bytes, tree.read spec = .ok bytes ∧ Utf8.read bytes = .ok loaded.1) ∧
        Taken tree spec loaded.2 := by
  simp only [run_withSpec, bind_eq_ok_iff, map_eq_ok_iff, Activity.orFail_eq_ok_iff,
    FileStore.textOf_eq_ok_iff, forSpec_eq_ok_iff]
  constructor
  · rintro ⟨text, read, config, taken, rfl⟩
    exact ⟨read, taken⟩
  · rintro ⟨read, taken⟩
    exact ⟨_, read, _, taken, rfl⟩

/-- A specification file compiles when it is text and compiles with the configuration that is taken. -/
theorem compileFile_eq_ok_iff {options : CompileOptions} {html : String} :
    ((compileFile options spec : StateM FileTree _).run tree).1 = .ok html ↔
      ∃ bytes text config, tree.read spec = .ok bytes ∧ Utf8.read bytes = .ok text ∧
        Taken tree spec config ∧ config.compile options text = .ok html := by
  simp only [run_compileFile, bind_eq_ok_iff, Activity.around_eq_ok_iff, withSpec_eq_ok_iff]
  constructor
  · rintro ⟨loaded, ⟨⟨bytes, there, read⟩, taken⟩, compiled⟩
    exact ⟨bytes, loaded.1, loaded.2, there, read, taken, compiled⟩
  · rintro ⟨bytes, text, config, there, read, taken, compiled⟩
    exact ⟨(text, config), ⟨⟨bytes, there, read⟩, taken⟩, compiled⟩

end ProjectConfig

namespace Site

/-! ## The configuration of a preview -/

variable {site : Site} {spec : String}

/-- What a specification compiles to with the files of the site, as a page that is not minified. -/
def compiled (site : Site) (spec : String) : Except Failure String :=
  ((ProjectConfig.compileFile ⟨false, true⟩ spec : StateM FileTree _).run site.tree).1

/-- The bytes of a configuration: none where there is no file. -/
def configBytes (site : Site) (spec : String) : ByteArray :=
  ((site.tree.read (ProjectConfig.pathFor spec)).toOption).getD .empty

/-- The file of the configuration, where there is one, has bytes, and they are text. -/
def Configured (site : Site) (spec : String) : Prop :=
  ∀ bytes, site.tree.read (ProjectConfig.pathFor spec) = .ok bytes →
    ¬ bytes.isEmpty ∧ ∃ text, Utf8.read bytes = .ok text

theorem configBytes_of_ok {bytes : ByteArray}
    (there : site.tree.read (ProjectConfig.pathFor spec) = .ok bytes) :
    site.configBytes spec = bytes := by
  rw [configBytes, there]
  rfl

theorem configBytes_of_unread
    (unread : ∀ bytes, site.tree.read (ProjectConfig.pathFor spec) ≠ .ok bytes) :
    site.configBytes spec = .empty := by
  rw [configBytes]
  cases result : site.tree.read (ProjectConfig.pathFor spec) with
  | error error => rfl
  | ok bytes => exact absurd result (unread bytes)

/-- Nothing is no JSON, so a compilation that takes a file's configuration finds bytes in it. -/
theorem configured_of_taken {config : ProjectConfig}
    (taken : ProjectConfig.Taken site.tree spec config) : site.Configured spec := by
  intro bytes there
  cases taken with
  | absent unread => exact absurd there (unread bytes)
  | written there' read given =>
    cases there.symm.trans there'
    -- Without bytes there is no text, and no text is no JSON.
    refine ⟨fun none => ?_, _, read⟩
    cases (Utf8.read_of_isEmpty none).symm.trans read
    cases ProjectConfig.ofText?_empty.symm.trans given

/-- Where the configuration is one for both, the preview and a compilation take the same. -/
theorem configOf_iff_taken (configured : site.Configured spec) (path : String)
    {config : ProjectConfig} :
    Preview.configOf path (site.configBytes spec) = .ok config ↔
      ProjectConfig.Taken site.tree spec config := by
  cases result : site.tree.read (ProjectConfig.pathFor spec) with
  | error error =>
    have unread : ∀ bytes, site.tree.read (ProjectConfig.pathFor spec) ≠ .ok bytes := by
      simp [result]
    rw [configBytes_of_unread unread]
    constructor
    · rintro ⟨⟩
      exact .absent unread
    · intro taken
      cases taken with
      | absent => rfl
      | written there => exact absurd there (unread _)
  | ok bytes =>
    obtain ⟨some, text, read⟩ := configured bytes result
    rw [configBytes_of_ok result, Preview.configOf, if_neg some, Utf8.readLeniently_eq_of_read read]
    constructor
    · intro given
      split at given
      · rename_i found
        cases given
        exact .written result read found
      · cases given
    · intro taken
      cases taken with
      | absent unread => exact absurd result (unread bytes)
      | written there read' given =>
        cases result.symm.trans there
        cases read.symm.trans read'
        rw [given]

/-! ## Both ways -/

theorem compiled_eq_ok_iff {html : String} :
    site.compiled spec = .ok html ↔
      ∃ bytes text config, site.tree.read spec = .ok bytes ∧ Utf8.read bytes = .ok text ∧
        ProjectConfig.Taken site.tree spec config ∧ config.compile ⟨false, true⟩ text = .ok html :=
  ProjectConfig.compileFile_eq_ok_iff

/-- A specification that can be read is in a folder, and its configuration is looked for there. -/
theorem source_of_read {bytes : ByteArray} (there : site.tree.read spec = .ok bytes) :
    site.source spec = .ok (bytes, site.configBytes spec) := by
  rw [source_eq, there]
  cases above : Path.parent? spec with
  -- Only for such a path do the two look in different folders, and it leads to no file.
  | none => exact absurd there (FileTree.read_of_parent?_none above bytes)
  | some folder =>
    have same : site.preview.configPath spec = ProjectConfig.pathFor spec := by
      rw [Preview.configPath, ProjectConfig.pathFor, above]
      rfl
    rw [same]
    rfl

/-- What a request is answered, where the digests of the bytes asked for differ: the specification is
text, and it compiles with the configuration that the preview makes of the other file. -/
theorem run_page_eq_ok_iff {digest : PageSource → UInt64} {root : String} {tree : FileTree}
    {visits : List Visit}
    (separated : Preview.Separates digest
      ((fresh digest root tree).sources (visits ++ [.request spec])))
    {site : Site} (after : (fresh digest root tree).run visits = site) {html : String} :
    site.page spec = .ok html ↔
      ∃ bytes text config, site.tree.read spec = .ok bytes ∧ Utf8.read bytes = .ok text ∧
        Preview.configOf (site.preview.configPath spec) (site.configBytes spec) = .ok config ∧
        config.compile ⟨false, true⟩ text = .ok html := by
  have made : site.page spec = site.made spec := after ▸ run_page_eq_made separated
  rw [made, Site.made]
  cases there : site.tree.read spec with
  | error error => simp [source_eq, there, Except.bind]
  | ok bytes =>
    rw [source_of_read there]
    simp [Except.bind, Preview.make_eq_ok_iff]

/-- What compiles is shown as it compiles. What is shown compiles where the configuration is one for
both, and only there: elsewhere nothing compiles, so the two agree when nothing is shown either. -/
theorem compiled_iff_page {digest : PageSource → UInt64} {root spec : String} {tree : FileTree}
    {visits : List Visit}
    (separated : Preview.Separates digest
      ((fresh digest root tree).sources (visits ++ [.request spec]))) :
    let site := (fresh digest root tree).run visits
    (∀ html, site.compiled spec = .ok html ↔ site.Configured spec ∧ site.page spec = .ok html) ∧
    ((∀ html, site.page spec = .ok html ↔ site.compiled spec = .ok html) ↔
      site.Configured spec ∨ ∀ html, site.page spec ≠ .ok html) := by
  intro site
  have shown : ∀ html, site.page spec = .ok html ↔ _ := fun html =>
    run_page_eq_ok_iff separated (show _ = site from rfl)
  have exact : ∀ html, site.compiled spec = .ok html ↔
      site.Configured spec ∧ site.page spec = .ok html := by
    intro html
    rw [compiled_eq_ok_iff, shown]
    constructor
    · rintro ⟨bytes, text, config, there, read, taken, compiled⟩
      have configured := configured_of_taken taken
      exact ⟨configured, bytes, text, config, there, read,
        (configOf_iff_taken configured _).mpr taken, compiled⟩
    · rintro ⟨configured, bytes, text, config, there, read, given, compiled⟩
      exact ⟨bytes, text, config, there, read, (configOf_iff_taken configured _).mp given, compiled⟩
  refine ⟨exact, ?_⟩
  constructor
  · intro agree
    by_cases configured : site.Configured spec
    · exact .inl configured
    · exact .inr fun html page => configured ((exact html).mp ((agree html).mp page)).1
  · rintro (configured | failed) html
    · rw [exact, and_iff_right configured]
    · rw [exact]
      exact ⟨fun page => absurd page (failed html), And.right⟩

/-- The card's folder with a configuration of this text. -/
def cardFilesWith (config : String) : FileTree :=
  cardFiles.put ProjectConfig.fileName config.toUTF8

/-- The card with a configuration that is JSON. -/
def configuredCard : FileTree := cardFilesWith "\x7b\"minifyJS\":true\x7d"

/-- The card with a configuration that has no bytes. -/
def unconfiguredCard : FileTree := cardFilesWith ""

/-- With a configuration that is text, the card is shown as it compiles. -/
theorem compiled_iff_page_card :
    Preview.Separates sizes
        ((fresh sizes "site" configuredCard).sources ([] ++ [.request "card.json"])) ∧
      ∃ html, (fresh sizes "site" configuredCard).page "card.json" = .ok html ∧
        (fresh sizes "site" configuredCard).compiled "card.json" = .ok html := by
  have separated : Preview.Separates sizes
      ((fresh sizes "site" configuredCard).sources ([] ++ [.request "card.json"])) := by
    unfold Preview.Separates
    decide +kernel
  have compiles : ((fresh sizes "site" configuredCard).compiled "card.json").toOption.isSome = true := by
    decide +kernel
  refine ⟨separated, ?_⟩
  cases compiled : (fresh sizes "site" configuredCard).compiled "card.json" with
  | error failure => simp [compiled, Except.toOption] at compiles
  | ok html => exact ⟨html, (((compiled_iff_page separated).1 html).mp compiled).2, rfl⟩

/-- With an empty configuration the card is shown, and does not compile. -/
theorem page_of_empty_configuration :
    ¬ ∀ html, (fresh sizes "site" unconfiguredCard).page "card.json" = .ok html ↔
      (fresh sizes "site" unconfiguredCard).compiled "card.json" = .ok html := by
  have shown : ((fresh sizes "site" unconfiguredCard).page "card.json").toOption.isSome = true := by
    rw [fresh_page]
    decide +kernel
  have failed : ((fresh sizes "site" unconfiguredCard).compiled "card.json").toOption.isSome = false := by
    decide +kernel
  intro agree
  cases page : (fresh sizes "site" unconfiguredCard).page "card.json" with
  | error failure => simp [page, Except.toOption] at shown
  | ok html => simp [(agree html).mp page, Except.toOption] at failed

end Site

end LiveMarkup
