/-!
# Layout of a plugin directory

The names of the files that a plugin directory is expected to hold.
-/

set_option autoImplicit false

namespace PluginAudit

/-- The names of the well-known files of a plugin directory. -/
structure Layout where
  /-- The manifest, which every plugin has. -/
  manifest : String := "settings.json"
  /-- The primary module, which every plugin has. -/
  primaryModule : String := "index.js"
  /-- The routing module, needed when the manifest declares routes. -/
  routingModule : String := "routes.js"
  /-- The description, which is recommended. -/
  descriptionDoc : String := "README.md"
  /-- The dependency manifest, which is optional. -/
  dependencyManifest : String := "package.json"
  deriving DecidableEq, Repr

namespace Layout

/-- The layout that plugins follow unless told otherwise. -/
def standard : Layout := {}

/-- The names of the files that checks open. -/
def files (layout : Layout) : List String :=
  [layout.manifest, layout.primaryModule, layout.routingModule, layout.descriptionDoc,
    layout.dependencyManifest]

/-- The files that every plugin has. -/
def requiredFiles (layout : Layout) : List String := [layout.manifest, layout.primaryModule]

/-- The files whose absence only earns a warning. -/
def recommendedFiles (layout : Layout) : List String := [layout.descriptionDoc]

end Layout

end PluginAudit
