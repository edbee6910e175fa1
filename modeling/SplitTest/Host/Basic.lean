import SplitTest.Host.SiteConfig
import SplitTest.Host.Headers
import SplitTest.Host.Scripts

/-!
# The host

What hooks read and write: the session, the site configuration, the headers of
the response, the site's log and the scripts queued for the page.
-/

namespace SplitTest

/-- Values kept over a session. -/
abbrev Session := Dictionary String

/-- The lines a site wrote to its log. -/
structure HostLog where
  /-- Warnings in order. -/
  warnings : List String
  /-- Errors in order. -/
  errors : List String
deriving DecidableEq, Repr, Inhabited

namespace HostLog

/-- The log without lines. -/
def empty : HostLog := ⟨[], []⟩

/-- The log with one more warning. -/
def warn (l : HostLog) (line : String) : HostLog := { l with warnings := l.warnings ++ [line] }

/-- The log with one more error. -/
def fail (l : HostLog) (line : String) : HostLog := { l with errors := l.errors ++ [line] }

end HostLog

/-- The state around a hook. -/
structure Host where
  /-- The session. -/
  session : Session
  /-- The site configuration. -/
  config : SiteConfig
  /-- The headers of the response. -/
  headers : HeaderBuffer
  /-- The site's log. -/
  log : HostLog
  /-- The scripts queued for the page. -/
  scripts : ScriptRegistry
deriving DecidableEq

namespace Host

/-- The host before anything happened. -/
def empty : Host := ⟨.empty, .empty, .empty, .empty, .empty⟩

instance : Inhabited Host := ⟨empty⟩

end Host

end SplitTest
