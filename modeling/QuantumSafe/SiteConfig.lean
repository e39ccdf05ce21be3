import QuantumSafe.SymbolicText

set_option autoImplicit false

/- `scripts/site_config.py`: the generated blocks of `README.md` and `mkdocs.yml`. -/
namespace QuantumSafe.SiteBlocks

open PyText

structure SiteConfig where
  repositoryHost : Text
  repositoryOrg : Text
  repositoryName : Text
  defaultBranch : Text
  siteName : Text
  siteDescription : Text
  pagesBaseUrl : Text

def SiteConfig.repoSlug (config : SiteConfig) : Text :=
  config.repositoryOrg ++ text "/" ++ config.repositoryName

def SiteConfig.repoUrl (config : SiteConfig) : Text :=
  text "https://" ++ config.repositoryHost ++ text "/" ++ config.repoSlug

def SiteConfig.pagesBaseUrlNormalized (config : SiteConfig) : Text :=
  if config.pagesBaseUrl.getLast? = some '/' then config.pagesBaseUrl
  else config.pagesBaseUrl ++ text "/"

def SiteConfig.editUri (config : SiteConfig) : Text :=
  text "edit/" ++ config.defaultBranch ++ text "/docs/"

def SiteConfig.pagesUrl (config : SiteConfig) (path : Text) : Text :=
  config.pagesBaseUrlNormalized ++ path.dropWhile (· = '/')

/-- The two files with a generated block. -/
inductive Target where
  | readme
  | mkdocs
deriving DecidableEq, Repr

def Target.beginMark : Target → Text
  | .readme => text "<!-- site-config:begin -->"
  | .mkdocs => text "# site-config:begin"

def Target.endMark : Target → Text
  | .readme => text "<!-- site-config:end -->"
  | .mkdocs => text "# site-config:end"

def readmeSiteConfigBlock (config : SiteConfig) : Text :=
  let pages := config.pagesBaseUrlNormalized
  join ['\n']
    [ Target.readme.beginMark,
      text "**Documentation:** [" ++ pages ++ text "](" ++ pages ++ text ") (GitHub Pages)",
      [],
      text "## Documentation map",
      [],
      text "| Topic | Location |",
      text "|-------|----------|",
      text "| Setup, Makefile variables, troubleshooting | [Setup guide](" ++
        config.pagesUrl (text "setup/") ++ text ") |",
      text "| Per-service PQC configuration | [Services](" ++ config.pagesUrl (text "services/") ++
        text ") |",
      text "| Live test suite (`make test-lab`) | [Tests](" ++ config.pagesUrl (text "tests/") ++
        text ") |",
      Target.readme.endMark ]

def mkdocsSiteConfigBlock (config : SiteConfig) : Text :=
  join ['\n']
    [ Target.mkdocs.beginMark,
      text "# Generated from site.yaml — run: make sync-site-config",
      text "site_name: " ++ config.siteName,
      text "site_description: " ++ config.siteDescription,
      text "site_url: " ++ config.pagesBaseUrlNormalized,
      text "repo_url: " ++ config.repoUrl,
      text "repo_name: " ++ config.repoSlug,
      text "edit_uri: " ++ config.editUri,
      text "extra:",
      text "  social:",
      text "    - icon: fontawesome/brands/github",
      text "      link: " ++ config.repoUrl,
      Target.mkdocs.endMark ]

def Target.block (target : Target) (config : SiteConfig) : Text :=
  match target with
  | .readme => readmeSiteConfigBlock config
  | .mkdocs => mkdocsSiteConfigBlock config

inductive SyncError where
  | missingFile
  /-- The unpacking of a split that has only one part. -/
  | notEnoughValues
  | missingMarker (beginMark : Text)
deriving DecidableEq, Repr

def purposeMarker : Text := text "## Purpose\n"

/-- `_replace_marked_block`. -/
def replaceMarkedBlock (content beginMark endMark block : Text) : Except SyncError Text :=
  if contains beginMark content && contains endMark content then
    let before := splitHead beginMark content
    let rest := splitTail beginMark content
    match cut endMark rest with
    | none => .error .notEnoughValues
    | some (_, after) => .ok (rstrip before ++ text "\n\n" ++ block ++ text "\n" ++ lstrip after)
  else if startswith beginMark ['#'] then .ok (block ++ text "\n\n" ++ lstrip content)
  else
    match cut purposeMarker content with
    | none => .error (.missingMarker beginMark)
    | some (before, after) =>
        .ok (before ++ (block ++ text "\n\n" ++ purposeMarker) ++ after)

/-- `if not updated.endswith("\n"): updated += "\n"`. -/
def closeLine (updated : Text) : Text :=
  if updated.getLast? = some '\n' then updated else updated ++ ['\n']

/-- `sync_readme` and `sync_mkdocs`: whether the file was written, and its text afterwards. -/
def sync (target : Target) (config : SiteConfig) (file : Option Text) : Except SyncError (Bool × Text) :=
  match file with
  | none => .error .missingFile
  | some raw => do
      let original := universalNewlines raw
      let replaced ← replaceMarkedBlock original target.beginMark target.endMark (target.block config)
      let updated := closeLine replaced
      if updated = original then return (false, raw)
      else return (true, updated)

/-- `readme_is_synced` and `mkdocs_is_synced`. -/
def isSynced (target : Target) (config : SiteConfig) (file : Option Text) : Bool :=
  match file with
  | none => false
  | some raw => contains (target.block config) (universalNewlines raw)

end QuantumSafe.SiteBlocks
