import SplitTest.Text.Pieces
import SplitTest.Text.Numeral

/-!
# Command lines

A command line is a verb and its fields, separated by commas.  A verb has a fixed
number of fields, itself included, and the last one keeps its commas.  A line
that starts with no known verb is a command as well, one that does nothing.

`Command.parse` reads a line and `Command.line` writes it; a line with a known
verb and too few fields is malformed, and that is the only way to fail.
-/

namespace SplitTest

open SplitTest.Text

/-- The known verbs. -/
inductive Verb where
  | cfg
  | forcedPluginSetting
  | httpHeader
  | errorLog
  | jsHeader
  | jsFooter
deriving DecidableEq, Repr

namespace Verb

/-- Every verb. -/
def all : List Verb := [cfg, forcedPluginSetting, httpHeader, errorLog, jsHeader, jsFooter]

/-- The word that a command line starts with. -/
def token : Verb → String
  | cfg => "CFG"
  | forcedPluginSetting => "forced_plugin_setting"
  | httpHeader => "http_header"
  | errorLog => "error_log"
  | jsHeader => "js_header"
  | jsFooter => "js_footer"

/-- Number of comma-separated fields, the verb included. -/
def fieldCount : Verb → Nat
  | cfg => 3
  | forcedPluginSetting => 4
  | httpHeader => 3
  | errorLog => 2
  | jsHeader => 2
  | jsFooter => 2

/-- The verb written so; case matters. -/
def ofToken? (s : List Char) : Option Verb := all.find? fun v => v.token.toList == s

end Verb

/-- A command. -/
inductive Command where
  /-- Set a site setting. -/
  | cfg (name value : String)
  /-- Force a setting of a plugin. -/
  | forcedPluginSetting (plugin name value : String)
  /-- Emit a response header. -/
  | httpHeader (name value : String)
  /-- Write a line to the error log. -/
  | errorLog (message : String)
  /-- Queue a script for the page header. -/
  | jsHeader (body : String)
  /-- Queue a script for the page footer. -/
  | jsFooter (body : String)
  /-- A line without a known verb, which does nothing. -/
  | unknown (raw : String)
deriving DecidableEq, Repr

/-- A line with a known verb and fewer fields than the verb needs. -/
structure MalformedCommand where
  /-- The verb of the line. -/
  verb : Verb
  /-- Number of comma-separated fields of the line. -/
  found : Nat
deriving DecidableEq, Repr

/-- The text of the fault. -/
def MalformedCommand.message (e : MalformedCommand) : String :=
  "malformed " ++ e.verb.token ++ " command: expected " ++ ofNat e.verb.fieldCount
    ++ " fields, found " ++ ofNat e.found

namespace Command

/-- The verb, none for an unknown line. -/
def verb? : Command → Option Verb
  | cfg .. => some .cfg
  | forcedPluginSetting .. => some .forcedPluginSetting
  | httpHeader .. => some .httpHeader
  | errorLog .. => some .errorLog
  | jsHeader .. => some .jsHeader
  | jsFooter .. => some .jsFooter
  | unknown .. => none

/-- The fields after the verb; the whole line when the verb is unknown. -/
def fields : Command → List String
  | cfg name value => [name, value]
  | forcedPluginSetting plugin name value => [plugin, name, value]
  | httpHeader name value => [name, value]
  | errorLog message => [message]
  | jsHeader body => [body]
  | jsFooter body => [body]
  | unknown raw => [raw]

/-- The command with a verb and its fields, if there are as many as it needs. -/
def ofFields? (v : Verb) (fields : List String) : Option Command :=
  match v, fields with
  | .cfg, [name, value] => some (cfg name value)
  | .forcedPluginSetting, [plugin, name, value] => some (forcedPluginSetting plugin name value)
  | .httpHeader, [name, value] => some (httpHeader name value)
  | .errorLog, [message] => some (errorLog message)
  | .jsHeader, [body] => some (jsHeader body)
  | .jsFooter, [body] => some (jsFooter body)
  | _, _ => none

/-- Read a command line. -/
def parse (line : String) : Except MalformedCommand Command :=
  match Verb.ofToken? (before ',' line.toList) with
  | none => .ok (unknown line)
  | some v =>
    let found := piecesUpTo ',' v.fieldCount line.toList
    match ofFields? v (found.tail.map String.ofList) with
    | some c => .ok c
    | none => .error ⟨v, found.length⟩

/-- The line of a command. -/
def line (c : Command) : String :=
  match c.verb? with
  | some v => .ofList ([','].intercalate (v.token.toList :: c.fields.map String.toList))
  | none => .ofList ([','].intercalate (c.fields.map String.toList))

end Command

end SplitTest
