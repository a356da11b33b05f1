import LiveMarkup.Files.Tree
import LiveMarkup.Proofs.Site.PageCache
import LiveMarkup.Site.Preview
import Mathlib.Data.List.Induction

/-!
# Visits to a preview

The files of a folder are edited, and in between its pages are asked for. A `Site` is a preview with the
files that it shows, and a `Visit` is an edit or a request. The cache cannot be seen from outside
(`Site.run_page`): after any visits a request is answered as a preview without pages would answer it,
provided that the digests of the bytes that were asked for differ. What fails leaves no trace, whatever
is kept was made from bytes that were asked for, and there are never more pages than the limit.

The invariant is `Preview.Sound`, which a request keeps (`Sound.request`): the cache is in order and each
of its pages is the one that some bytes asked for before make.
-/

set_option autoImplicit false

namespace LiveMarkup

/-! ## Pages made from bytes -/

theorem Activity.around_eq_ok_iff {α : Type} {activity : Activity} {result : Except Failure α}
    {value : α} : activity.around result = .ok value ↔ result = .ok value := by
  cases result <;> simp [around, Except.mapError]

theorem Activity.orFail_eq_ok_iff {ε α : Type} {activity : Activity} {cause : ε → Cause}
    {result : Except ε α} {value : α} :
    activity.orFail cause result = .ok value ↔ result = .ok value := by
  cases result <;> simp [orFail, Except.mapError]

namespace Preview

/-- A page is made when the specification is text, the configuration is one and both compile. -/
theorem make_eq_ok_iff {spec configPath page : String} {source : PageSource} :
    make spec configPath source = .ok page ↔
      ∃ text config, Utf8.read source.1 = .ok text ∧ configOf configPath source.2 = .ok config ∧
        config.compile ⟨false, true⟩ text = .ok page := by
  rw [make]
  constructor
  · intro made
    cases read : (Activity.decoding spec).orFail Cause.encoding (Utf8.read source.1) with
    | error failure =>
      rw [read] at made
      cases made
    | ok text =>
      rw [read] at made
      cases given : configOf configPath source.2 with
      | error failure =>
        rw [given] at made
        cases made
      | ok config =>
        rw [given] at made
        exact ⟨text, config, Activity.orFail_eq_ok_iff.mp read, rfl, Activity.around_eq_ok_iff.mp made⟩
  · rintro ⟨text, config, read, given, compiled⟩
    rw [Activity.orFail_eq_ok_iff.mpr read, given]
    exact Activity.around_eq_ok_iff.mpr compiled

theorem configOf_congr {configPath bytes config} (given : configOf configPath bytes = .ok config)
    (other : String) : configOf other bytes = .ok config := by
  rw [configOf] at given ⊢
  split at given
  · rename_i none
    rwa [if_pos none]
  · rename_i some
    rw [if_neg some]
    split at given
    · exact given
    · cases given

/-- What the files are called matters for reports only. -/
theorem make_congr {spec configPath page : String} {source : PageSource}
    (made : make spec configPath source = .ok page) (spec' configPath' : String) :
    make spec' configPath' source = .ok page := by
  rw [make_eq_ok_iff] at made ⊢
  obtain ⟨text, config, read, given, compiled⟩ := made
  exact ⟨text, config, read, configOf_congr given configPath', compiled⟩

/-! ## Requests -/

/-- Different bytes among these have different digests. -/
def Separates (digest : PageSource → UInt64) (sources : List PageSource) : Prop :=
  ∀ source ∈ sources, ∀ other ∈ sources, digest source = digest other → source = other

/-- The cache is in order, and each of its pages is made from some of these bytes, whose digest is its
key. -/
structure Sound (sources : List PageSource) (preview : Preview) : Prop where
  ordered : preview.cache.Ordered
  limited : preview.cache.limit = cacheLimit
  keeps : preview.cache.Keeps fun key page => ∃ source ∈ sources, preview.digest source = key ∧
    ∀ spec configPath, make spec configPath source = .ok page

/-- The three ways in which a request ends: the page is there, it is made and put, or it cannot be
made. -/
inductive Requested (preview : Preview) (spec configPath : String) (source : PageSource) :
    Except Failure String × Preview → Prop where
  | found {page : String} (kept : preview.cache.pages[preview.digest source]? = some page) :
      Requested preview spec configPath source
        (.ok page, { preview with cache := (preview.cache.get (preview.digest source)).2 })
  | made {page : String} (missing : preview.cache.pages[preview.digest source]? = none)
      (made : make spec configPath source = .ok page) :
      Requested preview spec configPath source
        (.ok page, { preview with cache := preview.cache.insert (preview.digest source) page })
  | failed {failure : Failure} (missing : preview.cache.pages[preview.digest source]? = none)
      (failed : make spec configPath source = .error failure) :
      Requested preview spec configPath source (.error failure, preview)

theorem requested (preview : Preview) (spec configPath : String) (source : PageSource) :
    Requested preview spec configPath source (preview.request spec configPath source) := by
  rw [request]
  cases kept : preview.cache.pages[preview.digest source]? with
  | some page =>
    have found : Requested preview spec configPath source _ := .found kept
    rwa [PageCache.get_of_some kept] at found ⊢
  | none =>
    rw [PageCache.get_of_none kept]
    cases result : make spec configPath source with
    | ok page => exact .made kept result
    | error failure => exact .failed kept result

/-- A request keeps the folder and the digests. -/
theorem request_kept (preview : Preview) (spec configPath : String) (source : PageSource) :
    (preview.request spec configPath source).2.root = preview.root ∧
      (preview.request spec configPath source).2.digest = preview.digest := by
  have ended := preview.requested spec configPath source
  generalize preview.request spec configPath source = result at ended ⊢
  cases ended <;> exact ⟨rfl, rfl⟩

theorem sound_fresh (digest : PageSource → UInt64) (root : String) : (fresh digest root).Sound [] where
  ordered := PageCache.ordered_empty cacheLimit
  limited := rfl
  keeps := PageCache.keeps_empty _ cacheLimit

section Sound

variable {sources : List PageSource} {preview : Preview}

theorem Sound.mono (sound : preview.Sound sources) {more : List PageSource}
    (among : ∀ source ∈ sources, source ∈ more) : preview.Sound more where
  ordered := sound.ordered
  limited := sound.limited
  keeps key page kept := by
    obtain ⟨source, member, made⟩ := sound.keeps key page kept
    exact ⟨source, among source member, made⟩

theorem Sound.request (sound : preview.Sound sources) (spec configPath : String)
    {source : PageSource} (member : source ∈ sources) :
    (preview.request spec configPath source).2.Sound sources := by
  have ended := preview.requested spec configPath source
  generalize preview.request spec configPath source = result at ended ⊢
  cases ended with
  | found kept =>
    exact ⟨sound.ordered.get _, (PageCache.get_limit _ _).trans sound.limited, sound.keeps.get _⟩
  | made missing made =>
    exact ⟨sound.ordered.insert _ _, (PageCache.insert_limit _ _ _).trans sound.limited,
      sound.keeps.insert ⟨source, member, rfl, make_congr made⟩⟩
  | failed missing failed => exact sound

/-- What is found in the cache is what would be made. -/
theorem Sound.request_eq_make (sound : preview.Sound sources)
    (separated : Separates preview.digest sources) (spec configPath : String) {source : PageSource}
    (member : source ∈ sources) :
    (preview.request spec configPath source).1 = make spec configPath source := by
  have ended := preview.requested spec configPath source
  generalize preview.request spec configPath source = result at ended ⊢
  cases ended with
  | found kept =>
    -- The page that is found was made from some bytes with this digest, which are these.
    obtain ⟨other, among, same, made⟩ := sound.keeps _ _ kept
    rw [← separated other among source member same, made]
  | made missing made => exact made.symm
  | failed missing failed => exact failed.symm

theorem Sound.cachedPages_le (sound : preview.Sound sources) : preview.cachedPages ≤ cacheLimit := by
  rw [← sound.limited]
  exact sound.ordered.size_le

end Sound

end Preview

/-! ## Sites -/

/-- A preview and the files that it shows. -/
structure Site where
  preview : Preview
  tree : FileTree

/-- Something that happens to a site: its files are edited, or a page is asked for. -/
inductive Visit where
  | edit (change : FileTree → FileTree)
  | request (spec : String)

namespace Site

/-- A site without pages. -/
def fresh (digest : PageSource → UInt64) (root : String) (tree : FileTree) : Site :=
  ⟨.fresh digest root, tree⟩

/-- The bytes that a page is asked to be made from. -/
def source (site : Site) (spec : String) : Except Failure PageSource :=
  ((site.preview.source spec : StateM FileTree _).run site.tree).1

/-- What a request is answered. -/
def page (site : Site) (spec : String) : Except Failure String :=
  ((site.preview.page spec : StateM FileTree _).run site.tree).1.1

/-- The site after a visit. -/
def after (site : Site) : Visit → Site
  | .edit change => { site with tree := change site.tree }
  | .request spec =>
    let result := (site.preview.page spec : StateM FileTree _).run site.tree
    ⟨result.1.2, result.2⟩

/-- The site after visits, in order. -/
def run (site : Site) (visits : List Visit) : Site := visits.foldl after site

/-- The bytes that a visit asks for. -/
def asked (site : Site) : Visit → List PageSource
  | .edit _ => []
  | .request spec => match site.source spec with
    | .ok source => [source]
    | .error _ => []

/-- The bytes that visits ask for, in order. -/
def sources (site : Site) : List Visit → List PageSource
  | [] => []
  | visit :: rest => site.asked visit ++ (site.after visit).sources rest

/-! ## One visit -/

theorem source_run (preview : Preview) (tree : FileTree) (spec : String) :
    (preview.source spec : StateM FileTree _).run tree =
      ((match tree.read spec with
        | .error error => .error ⟨[.reading spec], .file error⟩
        | .ok bytes => .ok (bytes, ((tree.read (preview.configPath spec)).toOption).getD .empty)),
        tree) := by
  rw [Preview.source, StateT.run_bind, FileTree.run_read]
  cases tree.read spec with
  | error error => rfl
  | ok bytes =>
    show StateT.run (FileStore.read (preview.configPath spec) >>= _) tree = _
    rw [StateT.run_bind, FileTree.run_read]
    cases tree.read (preview.configPath spec) with
    | error error => rfl
    | ok config => rfl

section Step

variable {site : Site} {spec : String}

theorem source_eq (site : Site) (spec : String) :
    site.source spec = match site.tree.read spec with
      | .error error => .error ⟨[.reading spec], .file error⟩
      | .ok bytes =>
        .ok (bytes, ((site.tree.read (site.preview.configPath spec)).toOption).getD .empty) :=
  congrArg Prod.fst (source_run site.preview site.tree spec)

theorem page_run (site : Site) (spec : String) :
    (site.preview.page spec : StateM FileTree _).run site.tree =
      ((match site.source spec with
        | .error failure => (.error failure, site.preview)
        | .ok source => site.preview.request spec (site.preview.configPath spec) source),
        site.tree) := by
  have unchanged : (site.preview.source spec : StateM FileTree _).run site.tree =
      (site.source spec, site.tree) := by
    rw [source_eq, source_run]
  rw [Preview.page, StateT.run_bind, unchanged]
  cases site.source spec with
  | error failure => rfl
  | ok source => rfl

/-- Without bytes a request fails and nothing changes. -/
theorem page_of_error {failure : Failure} (unread : site.source spec = .error failure) :
    site.page spec = .error failure ∧ site.after (.request spec) = site := by
  have run := page_run site spec
  rw [unread] at run
  exact ⟨congrArg (·.1.1) run, by rw [after, run]⟩

/-- With bytes a request is one for the page that they make. -/
theorem page_of_ok {source : PageSource} (read : site.source spec = .ok source) :
    site.page spec = (site.preview.request spec (site.preview.configPath spec) source).1 ∧
      site.after (.request spec) =
        ⟨(site.preview.request spec (site.preview.configPath spec) source).2, site.tree⟩ := by
  have run := page_run site spec
  rw [read] at run
  exact ⟨congrArg (·.1.1) run, by rw [after, run]⟩

/-- The site with the same files and without pages. -/
def emptied (site : Site) : Site := fresh site.preview.digest site.preview.root site.tree

/-- The bytes are those of the files, whatever is in the cache. -/
theorem source_emptied (site : Site) (spec : String) : site.emptied.source spec = site.source spec := by
  rw [source_eq, source_eq]
  rfl

/-- A request that fails leaves the site as it was. -/
theorem after_of_failed {failure : Failure} (failed : site.page spec = .error failure) :
    site.after (.request spec) = site := by
  cases read : site.source spec with
  | error unread => exact (page_of_error read).2
  | ok source =>
    obtain ⟨answer, after⟩ := page_of_ok read
    rw [answer] at failed
    rw [after]
    have ended := site.preview.requested spec (site.preview.configPath spec) source
    generalize site.preview.request spec (site.preview.configPath spec) source = result
      at ended failed ⊢
    cases ended with
    | found kept => cases failed
    | made missing made => cases failed
    | failed missing failed => rfl

/-- A visit keeps the folder and the digests. -/
theorem after_kept (site : Site) (visit : Visit) :
    (site.after visit).preview.root = site.preview.root ∧
      (site.after visit).preview.digest = site.preview.digest := by
  cases visit with
  | edit change => exact ⟨rfl, rfl⟩
  | request spec =>
    cases read : site.source spec with
    | error failure =>
      rw [(page_of_error read).2]
      exact ⟨rfl, rfl⟩
    | ok source =>
      rw [(page_of_ok read).2]
      exact Preview.request_kept _ _ _ _

theorem asked_of_ok {source : PageSource} (read : site.source spec = .ok source) :
    site.asked (.request spec) = [source] := by
  rw [asked, read]

/-- A visit adds no page but the one that is made from the bytes that it asks for. -/
theorem sound_after {sources : List PageSource} (sound : site.preview.Sound sources) (visit : Visit) :
    (site.after visit).preview.Sound (sources ++ site.asked visit) := by
  have sound : site.preview.Sound (sources ++ site.asked visit) :=
    sound.mono fun _ member => List.mem_append_left _ member
  cases visit with
  | edit change => exact sound
  | request spec =>
    cases read : site.source spec with
    | error failure => rwa [(page_of_error read).2]
    | ok source =>
      rw [(page_of_ok read).2]
      refine sound.request spec _ ?_
      rw [asked_of_ok read]
      exact List.mem_append_right _ List.mem_cons_self

end Step

/-! ## Any number of visits -/

theorem run_snoc (site : Site) (visits : List Visit) (visit : Visit) :
    site.run (visits ++ [visit]) = (site.run visits).after visit := by
  simp only [run, List.foldl_append, List.foldl_cons, List.foldl_nil]

theorem sources_snoc (site : Site) (visits : List Visit) (visit : Visit) :
    site.sources (visits ++ [visit]) = site.sources visits ++ (site.run visits).asked visit := by
  induction visits generalizing site with
  | nil => simp only [List.nil_append, sources, run, List.foldl_nil, List.append_nil]
  | cons first rest ih =>
    rw [List.cons_append, sources, sources, ih, List.append_assoc]
    rfl

theorem run_kept (site : Site) (visits : List Visit) :
    (site.run visits).preview.root = site.preview.root ∧
      (site.run visits).preview.digest = site.preview.digest := by
  induction visits using List.reverseRecOn with
  | nil => exact ⟨rfl, rfl⟩
  | append_singleton visits visit ih =>
    rw [run_snoc]
    obtain ⟨root, digest⟩ := after_kept (site.run visits) visit
    exact ⟨root.trans ih.1, digest.trans ih.2⟩

/-- After any visits the cache is in order, and its pages are made from the bytes that were asked
for. -/
theorem run_sound (digest : PageSource → UInt64) (root : String) (tree : FileTree)
    (visits : List Visit) :
    ((fresh digest root tree).run visits).preview.Sound ((fresh digest root tree).sources visits) := by
  -- From the last visit back: each visit adds to the bytes that the pages may be made from.
  induction visits using List.reverseRecOn with
  | nil => exact Preview.sound_fresh digest root
  | append_singleton visits visit ih =>
    rw [run_snoc, sources_snoc]
    exact sound_after ih visit

/-- The page made from the files as they are. -/
def made (site : Site) (spec : String) : Except Failure String :=
  (site.source spec).bind (Preview.make spec (site.preview.configPath spec))

/-- Where the digests of the bytes asked for differ, a request is answered by making the page. -/
theorem run_page_eq_made {digest : PageSource → UInt64} {root spec : String} {tree : FileTree}
    {visits : List Visit}
    (separated : Preview.Separates digest
      ((fresh digest root tree).sources (visits ++ [.request spec]))) :
    ((fresh digest root tree).run visits).page spec =
      ((fresh digest root tree).run visits).made spec := by
  have kept := (run_kept (fresh digest root tree) visits).2
  have sound := run_sound digest root tree visits
  rw [sources_snoc] at separated
  generalize (fresh digest root tree).run visits = site at kept sound separated ⊢
  rw [made]
  cases read : site.source spec with
  | error failure => exact (page_of_error read).1
  | ok source =>
    -- This request's bytes count as asked for, so a page found for them was made from the same ones.
    rw [asked_of_ok read] at separated
    have separated : Preview.Separates site.preview.digest
        ((fresh digest root tree).sources visits ++ [source]) := by rwa [kept]
    have sound : site.preview.Sound ((fresh digest root tree).sources visits ++ [source]) :=
      sound.mono fun _ member => List.mem_append_left _ member
    rw [(page_of_ok read).1]
    exact sound.request_eq_make separated spec _ (List.mem_append_right _ List.mem_cons_self)

/-- Without pages there is nothing to be found, whatever the digests. -/
theorem fresh_page (digest : PageSource → UInt64) (root spec : String) (tree : FileTree) :
    (fresh digest root tree).page spec = (fresh digest root tree).made spec := by
  suffices separated : Preview.Separates digest
      ((fresh digest root tree).sources ([] ++ [.request spec])) by
    have shown := run_page_eq_made separated
    rwa [run, List.foldl_nil] at shown
  rw [sources_snoc]
  show Preview.Separates digest ([] ++ (fresh digest root tree).asked (.request spec))
  intro one member other member' _
  cases read : (fresh digest root tree).source spec with
  | error failure => simp [asked, read] at member
  | ok source =>
    rw [asked_of_ok read, List.nil_append, List.mem_singleton] at member member'
    rw [member, member']

/-- The cache cannot be seen: after any visits a request is answered as it would be without pages,
where the digests of the bytes asked for differ. A request that fails changes nothing, every page that is
kept is made from bytes that were asked for, and there are at most 64 of them. -/
theorem run_page (digest : PageSource → UInt64) (root : String) (tree : FileTree)
    (visits : List Visit) (spec : String) :
    let start := fresh digest root tree
    let site := start.run visits
    (Preview.Separates digest (start.sources (visits ++ [.request spec])) →
      site.page spec = site.emptied.page spec) ∧
    (∀ failure, site.page spec = .error failure → site.after (.request spec) = site) ∧
    (∀ key page, site.preview.cache.pages[key]? = some page →
      ∃ source ∈ start.sources visits, digest source = key ∧
        ∀ spec configPath, Preview.make spec configPath source = .ok page) ∧
    site.preview.cachedPages ≤ 64 := by
  intro start site
  have sound : site.preview.Sound (start.sources visits) := run_sound digest root tree visits
  have same : site.preview.digest = digest := (run_kept start visits).2
  refine ⟨?_, fun failure failed => after_of_failed failed, ?_, sound.cachedPages_le⟩
  · intro separated
    calc site.page spec = site.made spec := run_page_eq_made separated
      _ = site.emptied.made spec := by rw [made, made, source_emptied]; rfl
      _ = site.emptied.page spec := (fresh_page _ _ _ _).symm
  · intro key page kept
    have made := sound.keeps key page kept
    rwa [same] at made

/-- A digest that sees no more than the sizes of the files. -/
def sizes (source : PageSource) : UInt64 := (source.1.size + 1000 * source.2.size).toUInt64

/-- A folder with one specification. -/
def cardFiles : FileTree :=
  FileTree.ofTexts "work" [("card.json", "\x7b\"id\":\"card\",\"states\":[\x7b\"id\":\"a\"\x7d]\x7d")]

/-- The card is asked for twice, then edited until it fails, and last it gets a configuration. -/
def cardVisits : List Visit :=
  [.request "card.json", .request "card.json",
    .edit fun tree => tree.put "card.json" "\x7b\"id\":\"card\",\"rules\":[]\x7d".toUTF8,
    .request "card.json", .request "none.json",
    .edit fun tree => tree.put ProjectConfig.fileName "\x7b\"minifyJS\":true\x7d".toUTF8]

/-- The sizes tell apart everything that is asked for, so the last request shows the files as they are. -/
theorem run_page_card :
    Preview.Separates sizes
        ((fresh sizes "site" cardFiles).sources (cardVisits ++ [.request "card.json"])) ∧
      ((fresh sizes "site" cardFiles).run cardVisits).page "card.json" =
        ((fresh sizes "site" cardFiles).run cardVisits).emptied.page "card.json" := by
  have separated : Preview.Separates sizes
      ((fresh sizes "site" cardFiles).sources (cardVisits ++ [.request "card.json"])) := by
    unfold Preview.Separates
    decide +kernel
  exact ⟨separated, (run_page sizes "site" cardFiles cardVisits "card.json").1 separated⟩

end Site

end LiveMarkup
