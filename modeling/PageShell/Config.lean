import PageShell.Wrapping
import PageShell.FileList

/-!
# Configurations

A configuration says which files to wrap, how to tell their categories, what to look for in them
and what to put around it.

Results:

* `wrapper_of_wrapping?`: what is put around pages is what the configuration says.
* `wrapping?_default`: the default configuration can be used.
-/

namespace PageShell

/-- Everything that a run needs to know. -/
structure Config where
  version : String
  /-- The category of paths that no rule matches. -/
  defaultCategory : Category
  files : List String
  rules : List Rule
  anchor : AnchorSettings
  wrapper : Wrapper
  /-- Whether reports show details. -/
  verbose : Bool
  deriving DecidableEq, Repr

namespace Config

/-- The version of configurations that this library understands. -/
def supportedVersion : String := "1.0"

/-- The pages that are wrapped when nothing else is configured. -/
def defaultFiles : List String :=
  ["src/pages/admin/Clients.jsx",
   "src/pages/admin/ClientDetail.jsx",
   "src/pages/admin/EditClient.jsx",
   "src/pages/admin/NewClient.jsx",
   "src/pages/admin/AdminAnamnesi.jsx",
   "src/pages/admin/BusinessHistory.jsx",
   "src/pages/admin/Statistiche.jsx",
   "src/pages/admin/Analytics.jsx",
   "src/pages/admin/Collaboratori.jsx",
   "src/pages/admin/CollaboratoreDetail.jsx",
   "src/pages/admin/Dipendenti.jsx",
   "src/pages/client/ClientAnamnesi.jsx",
   "src/pages/client/ClientChecks.jsx",
   "src/pages/client/ClientPayments.jsx",
   "src/pages/coach/CoachClients.jsx",
   "src/pages/coach/CoachClientDetail.jsx",
   "src/pages/coach/CoachAnamnesi.jsx",
   "src/pages/coach/CoachSchede.jsx",
   "src/pages/coach/CoachUpdates.jsx",
   "src/pages/collaboratore/CollaboratoreDashboard.jsx"]

/-- The configuration of a workspace that has none of its own. -/
def default : Config where
  version := supportedVersion
  defaultCategory := .admin
  files := defaultFiles
  rules := Rule.defaults
  anchor := .default
  wrapper := .default
  verbose := false

/-- The category of a path. -/
def classify (c : Config) (path : String) : Category :=
  PageShell.classify c.rules c.defaultCategory path

/-- What the configuration makes of pages, unless its anchor pattern cannot be read. -/
def wrapping? [PatternReader] (c : Config) : Option Wrapping :=
  c.anchor.locator?.map (⟨·, c.wrapper⟩)

theorem wrapper_of_wrapping? [PatternReader] {c : Config} {w : Wrapping}
    (h : c.wrapping? = some w) : w.wrapper = c.wrapper := by
  obtain ⟨locator, -, rfl⟩ := Option.map_eq_some_iff.1 h
  rfl

theorem wrapping?_default : default.wrapping? = some ⟨.default, .default⟩ := by
  simp [wrapping?, default, Locator.locator?_default]

end Config

end PageShell
