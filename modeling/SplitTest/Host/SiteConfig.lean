import SplitTest.Keyed

/-!
# Site configuration

A site has runtime values, values fixed by its static configuration, and settings
that are forced on its plugins.  A runtime value hides a fixed one of its name.
Writing a value fixes it as well, so what an experiment writes is fixed for every
later writer.
-/

namespace SplitTest

/-- The configuration of a site. -/
structure SiteConfig where
  /-- Runtime values by name. -/
  values : Dictionary String
  /-- Values fixed by the static configuration, by name. -/
  fixed : Dictionary String
  /-- Forced settings by plugin and name. -/
  forced : Dictionary (Dictionary String)
deriving DecidableEq

namespace SiteConfig

/-- The configuration without settings. -/
def empty : SiteConfig := ⟨.empty, .empty, .empty⟩

instance : Inhabited SiteConfig := ⟨empty⟩

/-- The value of a name that can be read. -/
def get? (c : SiteConfig) (name : String) : Option String :=
  (c.values.get? name).or (c.fixed.get? name)

/-- Whether a name is fixed. -/
def isFixed (c : SiteConfig) (name : String) : Bool := c.fixed.contains name

/-- Write a value, which fixes it. -/
def set (c : SiteConfig) (name value : String) : SiteConfig :=
  { c with values := c.values.set name value, fixed := c.fixed.set name value }

/-- The forced value of a plugin's setting. -/
def forced? (c : SiteConfig) (plugin name : String) : Option String :=
  (c.forced.get? plugin).bind fun d => d.get? name

/-- Force a setting on a plugin. -/
def force (c : SiteConfig) (plugin name value : String) : SiteConfig :=
  { c with forced := c.forced.set plugin (((c.forced.get? plugin).getD .empty).set name value) }

/-- The name of the setting that lets experiments write a fixed setting. -/
def permission (name : String) : String := name ++ "_allow_abconfig"

/-- Whether experiments must not write a name: it is fixed, and its permission
cannot be read. -/
def isLocked (c : SiteConfig) (name : String) : Bool :=
  (c.get? (permission name)).isNone && c.isFixed name

/-- Whether experiments must not force a plugin's setting: it is forced, and its
permission is not. -/
def isLockedFor (c : SiteConfig) (plugin name : String) : Bool :=
  (c.forced? plugin name).isSome && (c.forced? plugin (permission name)).isNone

end SiteConfig

end SplitTest
