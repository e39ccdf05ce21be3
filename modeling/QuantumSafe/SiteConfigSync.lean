import QuantumSafe.Reports
import QuantumSafe.SiteConfig

set_option autoImplicit false

/- When a generated block is in place after a synchronisation, and when the next one
finds nothing to do. -/
namespace QuantumSafe.SiteBlocks

open PyText SymbolicText

/-- A block between the marks of its file, with lines that do not have the end mark. -/
structure Marked (target : Target) (block mid : Text) : Prop where
  whole : block = target.beginMark ++ '\n' :: (mid ++ '\n' :: target.endMark)
  clear : cut target.endMark mid = none

/-- The marks as the cuts see them: one character starts both and stands nowhere else in
them. -/
theorem marks (target : Target) : ∃ c opening closing,
    target.beginMark = c :: opening ∧ target.endMark = c :: closing ∧ c ∉ opening ∧ c ∉ closing ∧
      '\n' ∉ target.beginMark ∧ '\n' ∉ target.endMark := by
  cases target
  · exact ⟨'<', _, _, rfl, rfl, by decide, by decide, by decide, by decide⟩
  · exact ⟨'#', _, _, rfl, rfl, by decide, by decide, by decide, by decide⟩

theorem beginMark_ne_nil (target : Target) : target.beginMark ≠ [] := by
  cases target <;> exact List.cons_ne_nil _ _

theorem endMark_ne_nil (target : Target) : target.endMark ≠ [] := by
  cases target <;> exact List.cons_ne_nil _ _

theorem cut_endMark_beginMark (target : Target) : cut target.endMark target.beginMark = none := by
  cases target <;> decide

/-- A last line that is empty stays so; any other one is closed. -/
def closeTail (tail : Text) : Text := if tail = [] then [] else closeLine tail

theorem getLast?_closeLine (s : Text) : (closeLine s).getLast? = some '\n' := by
  rw [closeLine]
  split
  · assumption
  · exact List.getLast?_concat

theorem closeLine_closeLine (s : Text) : closeLine (closeLine s) = closeLine s :=
  if_pos (getLast?_closeLine s)

theorem closeLine_append (s tail : Text) : closeLine (s ++ '\n' :: tail) = s ++ '\n' :: closeTail tail := by
  rw [closeTail]
  split
  · rename_i empty
    rw [empty, closeLine, if_pos List.getLast?_concat]
  · rename_i filled
    have last : (s ++ '\n' :: tail).getLast? = tail.getLast? := by
      rw [List.getLast?_append_of_ne_nil _ (List.cons_ne_nil _ _),
        ← List.singleton_append, List.getLast?_append_of_ne_nil _ filled]
    rw [closeLine, closeLine, last]
    split
    · rfl
    · simp

theorem closeLine_blank (s tail : Text) :
    closeLine (s ++ text "\n\n" ++ tail) = s ++ '\n' :: '\n' :: closeTail tail := by
  have split : s ++ text "\n\n" ++ tail = (s ++ ['\n']) ++ '\n' :: tail := by
    rw [List.append_assoc, List.append_assoc]
    rfl
  rw [split, closeLine_append, List.append_assoc]
  rfl

theorem closeTail_closeTail (tail : Text) : closeTail (closeTail tail) = closeTail tail := by
  by_cases empty : tail = []
  · rw [empty]
    rfl
  · have some : closeLine tail ≠ [] := by
      intro none
      have last := getLast?_closeLine tail
      rw [none] at last
      cases last
    rw [closeTail, closeTail, if_neg empty, if_neg some, closeLine_closeLine]

/-- A closed text that does not start with white space is left alone. -/
theorem lstrip_closeTail (s : Text) : lstrip (closeTail (lstrip s)) = closeTail (lstrip s) := by
  cases kept : lstrip s with
  | nil => rfl
  | cons c rest =>
      have visible : isSpace c = false := head?_lstrip (by rw [kept]; rfl)
      have stays (more : Text) : lstrip (c :: more) = c :: more :=
        List.dropWhile_cons_of_neg (by rw [visible]; exact Bool.false_ne_true)
      rw [closeTail, if_neg (List.cons_ne_nil c rest), closeLine]
      split
      · exact stays rest
      · exact stays (rest ++ ['\n'])

/-- The text that a synchronisation leaves, the final line feed included. -/
def refresh (target : Target) (block content : Text) : Except SyncError Text :=
  (replaceMarkedBlock content target.beginMark target.endMark block).map closeLine

/-- The block in the place of an old one, one blank line in front of it. -/
def placed (block before after : Text) : Text :=
  rstrip before ++ text "\n\n" ++ block ++ '\n' :: closeTail (lstrip after)

/-- Where both marks stand in order, the text between them is replaced. -/
theorem refresh_of_cuts {target : Target} {block content before rest inner after : Text}
    (opened : cut target.beginMark content = some (before, rest))
    (closed : cut target.endMark rest = some (inner, after)) :
    refresh target block content = .ok (placed block before after) := by
  have hasEnd : contains target.endMark content = true := by
    rw [cut_eq_some opened]
    exact contains_append_left _ (contains_of_cut closed)
  have line : text "\n" ++ lstrip after = '\n' :: lstrip after := rfl
  rw [refresh, replaceMarkedBlock, contains_of_cut opened, hasEnd, splitHead, splitTail, opened]
  simp only [Bool.and_self, if_true, Option.map_some, Option.getD_some, closed, Except.map]
  rw [List.append_assoc _ (text "\n"), line, closeLine_append, placed]

/-- Where a mark is missing, the block is put in front of a part of the content. -/
structure Inserted (target : Target) (content front last : Text) : Prop where
  unmarked : contains target.beginMark content = false ∨ contains target.endMark content = false
  place : (front = [] ∧ last = lstrip content) ∨
    ∃ after, cut purposeMarker content = some (front, after) ∧ last = purposeMarker ++ after

theorem refresh_cases {target : Target} {block content updated : Text}
    (ok : refresh target block content = .ok updated) :
    (∃ before rest inner after, cut target.beginMark content = some (before, rest) ∧
      cut target.endMark rest = some (inner, after) ∧ updated = placed block before after) ∨
    ∃ front last, Inserted target content front last ∧
      updated = front ++ block ++ '\n' :: '\n' :: closeTail last := by
  by_cases both : contains target.beginMark content = true ∧ contains target.endMark content = true
  · apply Or.inl
    obtain ⟨⟨before, rest⟩, opened⟩ := Option.ne_none_iff_exists'.mp
      (fun none => Bool.eq_false_iff.mp (cut_eq_none_iff.mp none) both.1)
    cases closed : cut target.endMark rest with
    | none =>
        rw [refresh, replaceMarkedBlock, both.1, both.2, splitTail, opened] at ok
        simp only [Bool.and_self, if_true, Option.map_some, Option.getD_some, closed, Except.map] at ok
        cases ok
    | some parts =>
        obtain ⟨inner, after⟩ := parts
        rw [refresh_of_cuts opened closed] at ok
        cases ok
        exact ⟨before, rest, inner, after, opened, closed, rfl⟩
  · apply Or.inr
    have missing : ¬ (contains target.beginMark content && contains target.endMark content) = true := by
      rw [Bool.and_eq_true]
      exact both
    have unmarked : contains target.beginMark content = false ∨ contains target.endMark content = false := by
      rw [← Bool.not_eq_true, ← Bool.not_eq_true]
      exact not_and_or.mp both
    rw [refresh, replaceMarkedBlock, if_neg missing] at ok
    split at ok
    · cases ok
      refine ⟨[], lstrip content, ⟨unmarked, Or.inl ⟨rfl, rfl⟩⟩, ?_⟩
      rw [closeLine_blank, List.nil_append]
    · cases place : cut purposeMarker content with
      | none =>
          rw [place] at ok
          cases ok
      | some parts =>
          obtain ⟨front, after⟩ := parts
          rw [place] at ok
          cases ok
          refine ⟨front, purposeMarker ++ after, ⟨unmarked, Or.inr ⟨after, place, rfl⟩⟩, ?_⟩
          rw [← closeLine_blank]
          simp only [List.append_assoc]

/-- The lines of the block end at its own end mark. -/
theorem cut_lines {target : Target} {block mid : Text} (marked : Marked target block mid) {line : Text}
    (clear : cut target.endMark line = none) (tail : Text) :
    cut target.endMark (line ++ '\n' :: (mid ++ '\n' :: (target.endMark ++ tail))) =
      some (line ++ '\n' :: (mid ++ ['\n']), tail) := by
  obtain ⟨-, -, -, -, -, -, -, -, endLine⟩ := marks target
  have first := cut_append_cons line (mid ++ '\n' :: (target.endMark ++ tail)) endLine
    (endMark_ne_nil target)
  have second := cut_append_cons mid (target.endMark ++ tail) endLine (endMark_ne_nil target)
  rw [marked.clear, cut_here (endMark_ne_nil target)] at second
  rw [clear, second] at first
  exact first

/-- Where the text in front of the block lacks one of the marks, a run takes the text
behind the block for what follows the old block. -/
theorem cut_around {target : Target} {block mid front : Text} (marked : Marked target block mid)
    (clear : contains target.beginMark front = false ∨ contains target.endMark front = false)
    (tail : Text) :
    ∃ before rest inner, cut target.beginMark (front ++ block ++ tail) = some (before, rest) ∧
      cut target.endMark rest = some (inner, tail) ∧
      (contains target.beginMark front = false → before = front) := by
  obtain ⟨c, opening, closing, beginMark, endMark, beginOnce, endOnce, -⟩ := marks target
  have whole : front ++ block ++ tail =
      front ++ (target.beginMark ++ '\n' :: (mid ++ '\n' :: (target.endMark ++ tail))) := by
    rw [marked.whole]
    simp only [List.append_assoc, List.cons_append]
  have nothing : cut target.endMark [] = none := by
    rw [cut, if_neg (by simpa using endMark_ne_nil target)]
  cases opened : cut target.beginMark front with
  | none =>
      have here : cut target.beginMark (front ++ block ++ tail) =
          some (front ++ [], '\n' :: (mid ++ '\n' :: (target.endMark ++ tail))) := by
        have reached := cut_append_head beginOnce (beginMark ▸ opened)
          (opening ++ '\n' :: (mid ++ '\n' :: (target.endMark ++ tail)))
        rw [← List.cons_append, ← beginMark, cut_here (beginMark_ne_nil target)] at reached
        rw [whole, reached]
        rfl
      exact ⟨_, _, _, here, cut_lines marked nothing tail, fun _ => List.append_nil front⟩
  | some parts =>
      obtain ⟨before, rest⟩ := parts
      have present := contains_of_cut opened
      have endless : contains target.endMark front = false :=
        clear.resolve_left (Bool.not_eq_false _ ▸ present)
      have clearRest : cut target.endMark rest = none := by
        rw [cut_eq_none_iff, Bool.eq_false_iff]
        intro found
        rw [cut_eq_some opened, contains_append_left _ found] at endless
        cases endless
      have reached := cut_append_head endOnce (endMark ▸ clearRest)
        (opening ++ '\n' :: (mid ++ '\n' :: (target.endMark ++ tail)))
      rw [← List.cons_append, ← endMark, ← beginMark,
        cut_lines marked (cut_endMark_beginMark target) tail] at reached
      rw [whole]
      refine ⟨before, _, _, cut_append_of_some (beginMark_ne_nil target) opened _, reached, ?_⟩
      intro absent
      rw [present] at absent
      cases absent

theorem notContains_front (target : Target) {before : Text}
    (clear : contains target.beginMark before = false) :
    contains target.beginMark (rstrip before ++ text "\n\n") = false := by
  obtain ⟨-, -, -, -, -, -, -, beginLine, -⟩ := marks target
  have kept : contains target.beginMark (rstrip before) = false := by
    rw [Bool.eq_false_iff]
    intro found
    rw [contains_iff] at found
    have inBefore := found.trans (List.rdropWhile_prefix isSpace before).isInfix
    rw [(contains_iff _ _).mpr inBefore] at clear
    cases clear
  have nothing : contains target.beginMark [] = false := by
    simpa [contains] using beginMark_ne_nil target
  have lines : text "\n\n" = '\n' :: ([] ++ '\n' :: []) := rfl
  rw [lines, contains_append_cons _ _ beginLine, contains_append_cons _ _ beginLine, kept, nothing]
  rfl

/-- A placed block is what the next run finds and places again. -/
theorem refresh_placed {target : Target} {block mid before : Text} (marked : Marked target block mid)
    (clear : contains target.beginMark before = false) (after : Text) :
    refresh target block (placed block before after) = .ok (placed block before after) := by
  have front := notContains_front target clear
  obtain ⟨before', rest, inner, opened, closed, same⟩ :=
    cut_around marked (Or.inl front) ('\n' :: closeTail (lstrip after))
  have again : refresh target block (placed block before after) = _ := refresh_of_cuts opened closed
  have blank : ∀ c ∈ text "\n\n", isSpace c = true := by
    intro c member
    simp only [text, List.mem_cons, List.not_mem_nil, or_false, or_self] at member
    rw [member]
    decide
  rw [again, same front, placed, rstrip_append_blank _ blank, rstrip_rstrip, lstrip_blank _ (by decide),
    lstrip_closeTail, closeTail_closeTail, placed]

/-- A block that was put in front of something has two line feeds behind it, and the
next run leaves one. -/
theorem refresh_inserted_ne {target : Target} {block mid front last : Text}
    (marked : Marked target block mid)
    (clear : contains target.beginMark front = false ∨ contains target.endMark front = false) :
    refresh target block (front ++ block ++ '\n' :: '\n' :: closeTail last) ≠
      .ok (front ++ block ++ '\n' :: '\n' :: closeTail last) := by
  obtain ⟨before, rest, inner, opened, closed, -⟩ :=
    cut_around marked clear ('\n' :: '\n' :: closeTail last)
  rw [refresh_of_cuts opened closed]
  intro same
  have fixed := Except.ok.inj same
  -- The text is also one in which the block was placed, so its end is cut in two ways.
  have absent := notContains_before (beginMark_ne_nil target) opened
  obtain ⟨before', rest', inner', opened', closed', -⟩ :=
    cut_around marked (Or.inl (notContains_front target absent))
      ('\n' :: closeTail (lstrip ('\n' :: '\n' :: closeTail last)))
  rw [← placed, fixed, opened] at opened'
  cases opened'
  rw [closed] at closed'
  have tails := (List.cons.inj (congrArg Prod.snd (Option.some.inj closed'))).2
  have head : (closeTail (lstrip ('\n' :: '\n' :: closeTail last))).head? = some '\n' := by
    rw [← tails]
    rfl
  rw [← lstrip_closeTail] at head
  have visible := head?_lstrip head
  cases visible

/- The blocks of a configuration -/

/-- The values that the blocks show. -/
inductive SiteSlot where
  | host
  | org
  | repo
  | branch
  | siteName
  | siteDescription
  | pages
deriving DecidableEq

def SiteConfig.shown (config : SiteConfig) : SiteSlot → Text
  | .host => config.repositoryHost
  | .org => config.repositoryOrg
  | .repo => config.repositoryName
  | .branch => config.defaultBranch
  | .siteName => config.siteName
  | .siteDescription => config.siteDescription
  | .pages => config.pagesBaseUrlNormalized

def siteLit (literal : String) {s : Text} (_ : literal = String.ofList s := by rfl) : Symbols SiteSlot :=
  chars s

def siteSlot (value : SiteSlot) : Symbols SiteSlot := slot value

theorem fill_siteLit (values : SiteSlot → Text) (literal : String) {s : Text} (same : literal = String.ofList s) :
    fill values (siteLit literal same) = text literal same :=
  fill_chars values s

theorem fill_siteSlot (values : SiteSlot → Text) (value : SiteSlot) :
    fill values (siteSlot value) = values value :=
  fill_slot_alone values value

def readmeLines : List (Symbols SiteSlot) :=
  [ siteLit "**Documentation:** [" ++ siteSlot .pages ++ siteLit "](" ++ siteSlot .pages ++
      siteLit ") (GitHub Pages)",
    [],
    siteLit "## Documentation map",
    [],
    siteLit "| Topic | Location |",
    siteLit "|-------|----------|",
    siteLit "| Setup, Makefile variables, troubleshooting | [Setup guide](" ++
      (siteSlot .pages ++ siteLit "setup/") ++ siteLit ") |",
    siteLit "| Per-service PQC configuration | [Services](" ++
      (siteSlot .pages ++ siteLit "services/") ++ siteLit ") |",
    siteLit "| Live test suite (`make test-lab`) | [Tests](" ++
      (siteSlot .pages ++ siteLit "tests/") ++ siteLit ") |" ]

def repoSlugSymbols : Symbols SiteSlot := siteSlot .org ++ siteLit "/" ++ siteSlot .repo

def repoUrlSymbols : Symbols SiteSlot :=
  siteLit "https://" ++ siteSlot .host ++ siteLit "/" ++ repoSlugSymbols

def mkdocsLines : List (Symbols SiteSlot) :=
  [ siteLit "# Generated from site.yaml — run: make sync-site-config",
    siteLit "site_name: " ++ siteSlot .siteName,
    siteLit "site_description: " ++ siteSlot .siteDescription,
    siteLit "site_url: " ++ siteSlot .pages,
    siteLit "repo_url: " ++ repoUrlSymbols,
    siteLit "repo_name: " ++ repoSlugSymbols,
    siteLit "edit_uri: " ++ (siteLit "edit/" ++ siteSlot .branch ++ siteLit "/docs/"),
    siteLit "extra:",
    siteLit "  social:",
    siteLit "    - icon: fontawesome/brands/github",
    siteLit "      link: " ++ repoUrlSymbols ]

/-- The lines between the marks. -/
def Target.lines : Target → List (Symbols SiteSlot)
  | .readme => readmeLines
  | .mkdocs => mkdocsLines

def Target.mid (target : Target) (config : SiteConfig) : Text :=
  join ['\n'] (target.lines.map (fill config.shown))

/-- The values of a configuration that the block of a file shows. -/
def Target.values (target : Target) (config : SiteConfig) : List Text :=
  match target with
  | .readme => [config.pagesBaseUrl]
  | .mkdocs =>
      [config.repositoryHost, config.repositoryOrg, config.repositoryName, config.defaultBranch,
        config.siteName, config.siteDescription, config.pagesBaseUrl]

/-- No value has a mark in it. -/
def NoMarks (config : SiteConfig) : Prop :=
  ∀ target : Target, ∀ value ∈ Target.mkdocs.values config,
    contains target.beginMark value = false ∧ contains target.endMark value = false

theorem pagesUrl_eq (config : SiteConfig) {path : Text} (relative : path.head? ≠ some '/') :
    config.pagesUrl path = config.pagesBaseUrlNormalized ++ path := by
  rw [SiteConfig.pagesUrl]
  cases path with
  | nil => rfl
  | cons c path =>
      have other : ¬ decide (c = '/') = true := by
        rw [decide_eq_true_iff]
        intro same
        exact relative (by rw [same]; rfl)
      exact congrArg (config.pagesBaseUrlNormalized ++ ·) (List.dropWhile_cons_of_neg other)

theorem readme_block (config : SiteConfig) :
    readmeSiteConfigBlock config =
      join ['\n'] (Target.readme.beginMark ::
        (readmeLines.map (fill config.shown) ++ [Target.readme.endMark])) := by
  have setup := pagesUrl_eq config (show (text "setup/").head? ≠ some '/' by decide)
  have services := pagesUrl_eq config (show (text "services/").head? ≠ some '/' by decide)
  have tests := pagesUrl_eq config (show (text "tests/").head? ≠ some '/' by decide)
  have pages : config.shown .pages = config.pagesBaseUrlNormalized := rfl
  rw [readmeSiteConfigBlock, setup, services, tests]
  simp only [readmeLines, List.map_cons, List.map_nil, fill_append, fill_siteLit, fill_siteSlot,
    fill_nil, pages, List.cons_append, List.nil_append]

theorem mkdocs_block (config : SiteConfig) :
    mkdocsSiteConfigBlock config =
      join ['\n'] (Target.mkdocs.beginMark ::
        (mkdocsLines.map (fill config.shown) ++ [Target.mkdocs.endMark])) := by
  simp only [mkdocsSiteConfigBlock, mkdocsLines, repoSlugSymbols, repoUrlSymbols,
    List.map_cons, List.map_nil, fill_append, fill_siteLit, fill_siteSlot, SiteConfig.shown,
    SiteConfig.repoUrl, SiteConfig.repoSlug, SiteConfig.editUri, List.cons_append, List.nil_append]

theorem block_lines (target : Target) (config : SiteConfig) :
    target.block config =
      join ['\n'] (target.beginMark :: (target.lines.map (fill config.shown) ++ [target.endMark])) := by
  cases target
  · exact readme_block config
  · exact mkdocs_block config

theorem join_around {first last : Text} {mids : List Text} (some : mids ≠ []) :
    join ['\n'] (first :: (mids ++ [last])) = first ++ '\n' :: (join ['\n'] mids ++ '\n' :: last) := by
  have more : mids ++ [last] ≠ [] := List.append_ne_nil_of_left_ne_nil some _
  have ends : join ['\n'] (mids ++ [last]) = join ['\n'] mids ++ '\n' :: last := by
    induction mids with
    | nil => exact absurd rfl some
    | cons mid rest ih =>
        by_cases alone : rest = []
        · rw [alone]
          simp [join]
        · have later := ih alone (List.append_ne_nil_of_left_ne_nil alone _)
          rw [join] at later
          rw [List.cons_append, join, join,
            List.intercalate_cons_of_ne_nil (List.append_ne_nil_of_left_ne_nil alone _),
            List.intercalate_cons_of_ne_nil alone, later, join]
          simp only [List.append_assoc]
  rw [← ends, join, join, List.intercalate_cons_of_ne_nil more, List.append_assoc]
  rfl

theorem block_whole (target : Target) (config : SiteConfig) :
    target.block config =
      target.beginMark ++ '\n' :: (target.mid config ++ '\n' :: target.endMark) := by
  have some : target.lines.map (fill config.shown) ≠ [] := by
    cases target <;> exact List.cons_ne_nil _ _
  rw [block_lines, join_around some, Target.mid]

theorem shown_noMark {config : SiteConfig} (clear : NoMarks config) (target : Target) (name : SiteSlot) :
    contains target.endMark (config.shown name) = false := by
  have noMark (value : Text) (member : value ∈ Target.mkdocs.values config) :=
    (clear target value member).2
  cases name with
  | pages =>
      have plain := noMark config.pagesBaseUrl (by simp [Target.values])
      have slash : '/' ∉ target.endMark := by cases target <;> decide
      have nothing : contains target.endMark [] = false := by
        simpa [contains] using endMark_ne_nil target
      rw [SiteConfig.shown, SiteConfig.pagesBaseUrlNormalized]
      split
      · exact plain
      · rw [show text "/" = '/' :: [] from rfl, contains_append_cons _ _ slash, plain, nothing]
        rfl
  | _ => exact noMark _ (by simp [Target.values, SiteConfig.shown])

/-- No line makes an end mark out of values that have none. -/
theorem lines_noMark (target : Target) :
    (target.lines.all fun line => !mayOccur (fun _ _ => true) false target.endMark line) = true := by
  cases target <;> decide +kernel

theorem marked_block {config : SiteConfig} (clear : NoMarks config) (target : Target) :
    Marked target (target.block config) (target.mid config) := by
  refine ⟨block_whole target config, ?_⟩
  obtain ⟨-, -, -, -, -, -, -, -, oneLine⟩ := marks target
  rw [cut_eq_none_iff, Target.mid, contains_join oneLine (endMark_ne_nil target), List.any_map,
    List.any_eq_false]
  intro line member
  have none := List.all_eq_true.mp (lines_noMark target) line member
  rw [Function.comp_apply, notContains_fill (fun _ _ _ => rfl) (Bool.not_eq_true' _ |>.mp none)
    fun _ => shown_noMark clear target]
  exact Bool.false_ne_true

/- Carriage returns -/

def Target.slots : Target → List SiteSlot
  | .readme => [.pages]
  | .mkdocs => [.host, .org, .repo, .branch, .siteName, .siteDescription, .pages]

theorem values_shown (target : Target) (config : SiteConfig) :
    (∃ name ∈ target.slots, '\r' ∈ config.shown name) ↔ ∃ value ∈ target.values config, '\r' ∈ value := by
  have pages : '\r' ∈ config.pagesBaseUrlNormalized ↔ '\r' ∈ config.pagesBaseUrl := by
    rw [SiteConfig.pagesBaseUrlNormalized]
    split
    · rfl
    · rw [List.mem_append, or_iff_left (by decide)]
  cases target <;> simp [Target.slots, Target.values, SiteConfig.shown, pages]

theorem slot_mem_lines (target : Target) (name : SiteSlot) :
    (∃ line ∈ target.lines, Symbol.slot name ∈ line) ↔ name ∈ target.slots := by
  cases target <;> cases name <;> decide +kernel

theorem return_notMem_lines (target : Target) :
    ∀ line ∈ target.lines, Symbol.char '\r' ∉ line := by
  cases target <;> decide +kernel

/-- A block has a carriage return exactly where one of its values has. -/
theorem return_mem_block (target : Target) (config : SiteConfig) :
    '\r' ∈ target.block config ↔ ∃ value ∈ target.values config, '\r' ∈ value := by
  have inMid : '\r' ∈ target.mid config ↔ ∃ name ∈ target.slots, '\r' ∈ config.shown name := by
    constructor
    · intro inside
      rcases mem_join inside with separator | ⟨filled, member, inLine⟩
      · exact absurd separator (by decide)
      · obtain ⟨line, isLine, rfl⟩ := List.mem_map.mp member
        rcases mem_fill.mp inLine with written | ⟨name, isSlot, inValue⟩
        · exact absurd written (return_notMem_lines target line isLine)
        · exact ⟨name, (slot_mem_lines target name).mp ⟨line, isLine, isSlot⟩, inValue⟩
    · rintro ⟨name, isSlot, inValue⟩
      have ⟨line, member, inLine⟩ := (slot_mem_lines target name).mpr isSlot
      exact mem_join_of_mem (List.mem_map_of_mem member) (mem_fill.mpr (Or.inr ⟨name, inLine, inValue⟩))
  have noBegin : '\r' ∉ target.beginMark := by cases target <;> decide
  have noEnd : '\r' ∉ target.endMark := by cases target <;> decide
  have other : '\r' ≠ '\n' := by decide
  rw [← values_shown, ← inMid, block_whole]
  simp only [List.mem_append, List.mem_cons, noBegin, noEnd, other, false_or, or_false]

/- A synchronisation -/

theorem sync_cases {target : Target} {config : SiteConfig} {raw written : Text} {changed : Bool}
    (ok : sync target config (some raw) = .ok (changed, written)) :
    ∃ updated, refresh target (target.block config) (universalNewlines raw) = .ok updated ∧
      ((changed = false ∧ written = raw ∧ updated = universalNewlines raw) ∨
        (changed = true ∧ written = updated)) := by
  obtain ⟨text, replaced, ok⟩ := Reports.bind_ok_iff.mp ok
  refine ⟨closeLine text, Reports.map_ok_iff.mpr ⟨text, replaced, rfl⟩, ?_⟩
  by_cases same : closeLine text = universalNewlines raw
  · rw [if_pos same] at ok
    cases ok
    exact Or.inl ⟨rfl, rfl, same⟩
  · rw [if_neg same] at ok
    cases ok
    exact Or.inr ⟨rfl, rfl⟩

theorem sync_unchanged_iff {target : Target} {config : SiteConfig} {written : Text} :
    sync target config (some written) = .ok (false, written) ↔
      refresh target (target.block config) (universalNewlines written) = .ok (universalNewlines written) := by
  constructor
  · intro ok
    have ⟨updated, refreshed, outcome⟩ := sync_cases ok
    rcases outcome with ⟨-, -, same⟩ | ⟨changed, -⟩
    · rw [refreshed, same]
    · cases changed
  · intro refreshed
    obtain ⟨text, replaced, same⟩ := Reports.map_ok_iff.mp refreshed
    refine Reports.bind_ok_iff.mpr ⟨text, replaced, ?_⟩
    rw [if_pos same]
    rfl

/-- Apart from the block, the white space next to it and a final line feed, a text is
the old one. -/
def KeptAround (target : Target) (block original updated : Text) : Prop :=
  ∃ before inner after front tail, original = before ++ inner ++ after ∧
    (inner = [] ∨ ∃ mid, inner = target.beginMark ++ mid ++ target.endMark) ∧
    updated = front ++ block ++ tail ∧ rstrip front = rstrip before ∧
    (lstrip tail = lstrip after ∨ lstrip tail = lstrip after ++ ['\n'])

theorem closeTail_cases (tail : Text) : closeTail tail = tail ∨ closeTail tail = tail ++ ['\n'] := by
  rw [closeTail, closeLine]
  split
  · rename_i empty
    exact Or.inl empty.symm
  · split
    · exact Or.inl rfl
    · exact Or.inr rfl

theorem lstrip_inserted {target : Target} {content front last : Text}
    (inserted : Inserted target content front last) : lstrip last = last := by
  rcases inserted.place with ⟨-, stripped⟩ | ⟨after, -, marked⟩
  · rw [stripped]
    exact List.dropWhile_idempotent isSpace content
  · rw [marked]
    exact List.dropWhile_cons_of_neg (by decide)

theorem original_inserted {target : Target} {content front last : Text}
    (inserted : Inserted target content front last) :
    ∃ after, content = front ++ after ∧ lstrip after = last := by
  rcases inserted.place with ⟨none, stripped⟩ | ⟨after, place, marked⟩
  · exact ⟨content, by rw [none, List.nil_append], stripped.symm⟩
  · refine ⟨last, ?_, lstrip_inserted inserted⟩
    rw [marked, cut_eq_some place, List.append_assoc]

theorem kept_refresh {target : Target} {block content updated : Text}
    (ok : refresh target block content = .ok updated) : KeptAround target block content updated := by
  rcases refresh_cases ok with ⟨before, rest, inner, after, opened, closed, rfl⟩ | ⟨front, last, inserted, rfl⟩
  · refine ⟨before, target.beginMark ++ inner ++ target.endMark, after, rstrip before ++ text "\n\n",
      '\n' :: closeTail (lstrip after), ?_, Or.inr ⟨inner, rfl⟩, rfl, ?_, ?_⟩
    · rw [cut_eq_some opened, cut_eq_some closed]
      simp only [List.append_assoc]
    · rw [rstrip_append_blank _ (List.all_eq_true.mp (by decide)), rstrip_rstrip]
    · rw [lstrip_blank _ (by decide), lstrip_closeTail]
      exact closeTail_cases (lstrip after)
  · obtain ⟨after, split, stripped⟩ := original_inserted inserted
    refine ⟨front, [], after, front, '\n' :: '\n' :: closeTail last, ?_, Or.inl rfl, rfl, rfl, ?_⟩
    · rw [List.append_nil, split]
    · rw [lstrip_blank _ (by decide), lstrip_blank _ (by decide), ← stripped, lstrip_closeTail]
      exact closeTail_cases (lstrip after)

theorem block_mem_refresh {target : Target} {block content updated : Text}
    (ok : refresh target block content = .ok updated) : contains block updated = true := by
  have ⟨_, _, _, front, tail, _, _, split, _⟩ := kept_refresh ok
  rw [split]
  exact contains_of_append front block tail

theorem return_mem_closeTail {tail : Text} (inside : '\r' ∈ closeTail tail) : '\r' ∈ tail := by
  rcases closeTail_cases tail with same | closed
  · exact same ▸ inside
  · rw [closed, List.mem_append, or_iff_left (by decide)] at inside
    exact inside

theorem return_notMem_refresh {target : Target} {block content updated : Text}
    (ok : refresh target block content = .ok updated) (noReturn : '\r' ∉ block)
    (absent : '\r' ∉ content) : '\r' ∉ updated := by
  have other : '\r' ≠ '\n' := by decide
  rcases refresh_cases ok with ⟨before, rest, inner, after, opened, closed, rfl⟩ | ⟨front, last, inserted, rfl⟩
  · rw [cut_eq_some opened, cut_eq_some closed] at absent
    simp only [List.mem_append, not_or] at absent
    have noBlank : '\r' ∉ text "\n\n" := by decide
    have noBefore : '\r' ∉ rstrip before := fun inside =>
      absent.1.1 ((List.rdropWhile_prefix isSpace before).subset inside)
    have noAfter : '\r' ∉ closeTail (lstrip after) := fun inside =>
      absent.2.2 ((List.dropWhile_suffix isSpace).subset (return_mem_closeTail inside))
    simp only [placed, List.mem_append, List.mem_cons, not_or]
    exact ⟨⟨⟨noBefore, noBlank⟩, noReturn⟩, other, noAfter⟩
  · obtain ⟨after, split, stripped⟩ := original_inserted inserted
    rw [split, List.mem_append, not_or] at absent
    have noLast : '\r' ∉ closeTail last := by
      intro inside
      have inLast := return_mem_closeTail inside
      rw [← stripped] at inLast
      exact absent.2 ((List.dropWhile_suffix isSpace).subset inLast)
    simp only [List.mem_append, List.mem_cons, not_or]
    exact ⟨⟨absent.1, noReturn⟩, other, other, noLast⟩

/-- What a synchronisation is for. -/
structure Synced (target : Target) (config : SiteConfig) (raw written : Text) : Prop where
  contained : isSynced target config (some written) = true
  outside : KeptAround target (target.block config) (universalNewlines raw) (universalNewlines written)
  again : sync target config (some written) = .ok (false, written)

theorem universalNewlines_synced {target : Target} {config : SiteConfig} {raw written updated : Text}
    {changed : Bool} (noReturn : '\r' ∉ target.block config)
    (refreshed : refresh target (target.block config) (universalNewlines raw) = .ok updated)
    (outcome : (changed = false ∧ written = raw ∧ updated = universalNewlines raw) ∨
      (changed = true ∧ written = updated)) :
    universalNewlines written = updated := by
  rcases outcome with ⟨-, same, unchanged⟩ | ⟨-, same⟩
  · rw [same, unchanged]
  · rw [same]
    exact universalNewlines_of_notMem
      (return_notMem_refresh refreshed noReturn (notMem_universalNewlines raw))

/-- Where no value has a carriage return, the block is there and the rest of the text is kept. -/
theorem sync_contained {target : Target} {config : SiteConfig} {raw written : Text} {changed : Bool}
    (plain : ∀ value ∈ target.values config, '\r' ∉ value)
    (ok : sync target config (some raw) = .ok (changed, written)) :
    isSynced target config (some written) = true ∧
      KeptAround target (target.block config) (universalNewlines raw) (universalNewlines written) := by
  have noReturn : '\r' ∉ target.block config := by
    rw [return_mem_block]
    exact fun ⟨value, member, inside⟩ => plain value member inside
  have ⟨updated, refreshed, outcome⟩ := sync_cases ok
  rw [isSynced, universalNewlines_synced noReturn refreshed outcome]
  exact ⟨block_mem_refresh refreshed, kept_refresh refreshed⟩

/-- A carriage return in the block is a line feed when the file is read again. -/
theorem notSynced_of_return {target : Target} {config : SiteConfig} {value : Text} (written : Text)
    (member : value ∈ target.values config) (inside : '\r' ∈ value) :
    isSynced target config (some written) = false := by
  have inBlock := (return_mem_block target config).mpr ⟨value, member, inside⟩
  rw [isSynced, Bool.eq_false_iff]
  intro found
  rw [contains_iff] at found
  exact notMem_universalNewlines written (found.subset inBlock)

/-- The next synchronisation has nothing to do where this one replaced a block. -/
theorem refresh_again_iff {target : Target} {block mid content updated : Text}
    (marked : Marked target block mid) (ok : refresh target block content = .ok updated) :
    refresh target block updated = .ok updated ↔
      contains target.beginMark content = true ∧ contains target.endMark content = true := by
  rcases refresh_cases ok with ⟨before, rest, inner, after, opened, closed, rfl⟩ | ⟨front, last, inserted, rfl⟩
  · have absent := notContains_before (beginMark_ne_nil target) opened
    have hasEnd : contains target.endMark content = true := by
      rw [cut_eq_some opened]
      exact contains_append_left _ (contains_of_cut closed)
    exact iff_of_true (refresh_placed marked absent after) ⟨contains_of_cut opened, hasEnd⟩
  · obtain ⟨after, split, -⟩ := original_inserted inserted
    have clear : contains target.beginMark front = false ∨ contains target.endMark front = false := by
      have absent {mark : Text} (none : contains mark content = false) : contains mark front = false := by
        rw [Bool.eq_false_iff] at none ⊢
        exact fun found => none (split ▸ contains_append_right after found)
      exact inserted.unmarked.imp absent absent
    refine iff_of_false (refresh_inserted_ne marked clear) ?_
    rintro ⟨hasBegin, hasEnd⟩
    rcases inserted.unmarked with none | none
    · rw [hasBegin] at none
      cases none
    · rw [hasEnd] at none
      cases none

theorem sync_synced_iff {target : Target} {config : SiteConfig} {raw written : Text} {changed : Bool}
    (clear : NoMarks config) (ok : sync target config (some raw) = .ok (changed, written)) :
    Synced target config raw written ↔
      (contains target.beginMark (universalNewlines raw) = true ∧
        contains target.endMark (universalNewlines raw) = true) ∧
      ∀ value ∈ target.values config, '\r' ∉ value := by
  have ⟨updated, refreshed, outcome⟩ := sync_cases ok
  have marked := marked_block clear target
  by_cases plain : ∀ value ∈ target.values config, '\r' ∉ value
  · have noReturn : '\r' ∉ target.block config := by
      rw [return_mem_block]
      exact fun ⟨value, member, inside⟩ => plain value member inside
    have ⟨contained, outside⟩ := sync_contained plain ok
    have again : sync target config (some written) = .ok (false, written) ↔
        refresh target (target.block config) updated = .ok updated := by
      rw [sync_unchanged_iff, universalNewlines_synced noReturn refreshed outcome]
    rw [and_iff_left plain, ← refresh_again_iff marked refreshed, ← again]
    exact ⟨fun synced => synced.again, fun same => ⟨contained, outside, same⟩⟩
  · refine iff_of_false (fun synced => ?_) (fun both => plain both.2)
    push Not at plain
    have ⟨value, member, inside⟩ := plain
    have contained := synced.contained
    rw [notSynced_of_return written member inside] at contained
    cases contained

/-- The values of `site.yaml`. -/
def siteYaml : SiteConfig where
  repositoryHost := text "github.com"
  repositoryOrg := text "fhibler"
  repositoryName := text "arista-quantum-safe"
  defaultBranch := text "main"
  siteName := text "Quantum Safe Lab"
  siteDescription := text "Post-quantum cryptography lab for Arista cEOS management plane and MACsec"
  pagesBaseUrl := text "https://fhibler.github.io/arista-quantum-safe/"

theorem siteYaml_noMarks : NoMarks siteYaml := by
  intro target
  cases target <;> decide +kernel

/-- A file that is only the block, between its marks. -/
theorem sync_synced_iff_siteYaml :
    Synced .mkdocs siteYaml (text "# site-config:begin\n# site-config:end\ntheme:\n")
        (text "\n\n" ++ mkdocsSiteConfigBlock siteYaml ++ text "\ntheme:\n") ↔
      (contains Target.mkdocs.beginMark
          (universalNewlines (text "# site-config:begin\n# site-config:end\ntheme:\n")) = true ∧
        contains Target.mkdocs.endMark
          (universalNewlines (text "# site-config:begin\n# site-config:end\ntheme:\n")) = true) ∧
      ∀ value ∈ Target.mkdocs.values siteYaml, '\r' ∉ value :=
  @sync_synced_iff _ _ _ _ true siteYaml_noMarks (by decide +kernel)

/-- A `README.md` without marks is written again by the second run. -/
theorem sync_readme_unmarked_again : NoMarks siteYaml ∧
    sync .readme siteYaml (some (text "# Lab\n\n## Purpose\n")) =
      .ok (true, text "# Lab\n\n" ++ readmeSiteConfigBlock siteYaml ++ text "\n\n## Purpose\n") ∧
    sync .readme siteYaml
        (some (text "# Lab\n\n" ++ readmeSiteConfigBlock siteYaml ++ text "\n\n## Purpose\n")) =
      .ok (true, text "# Lab\n\n" ++ readmeSiteConfigBlock siteYaml ++ text "\n## Purpose\n") ∧
    ¬ Synced .readme siteYaml (text "# Lab\n\n## Purpose\n")
      (text "# Lab\n\n" ++ readmeSiteConfigBlock siteYaml ++ text "\n\n## Purpose\n") := by
  have first : sync .readme siteYaml (some (text "# Lab\n\n## Purpose\n")) =
      .ok (true, text "# Lab\n\n" ++ readmeSiteConfigBlock siteYaml ++ text "\n\n## Purpose\n") := by
    decide +kernel
  have second : sync .readme siteYaml
        (some (text "# Lab\n\n" ++ readmeSiteConfigBlock siteYaml ++ text "\n\n## Purpose\n")) =
      .ok (true, text "# Lab\n\n" ++ readmeSiteConfigBlock siteYaml ++ text "\n## Purpose\n") := by
    decide +kernel
  refine ⟨siteYaml_noMarks, first, second, fun synced => ?_⟩
  have again := synced.again
  rw [second] at again
  cases again

end QuantumSafe.SiteBlocks
