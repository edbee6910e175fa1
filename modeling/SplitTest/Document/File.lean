import SplitTest.Document.Schema
import SplitTest.Json.Document
import SplitTest.Yaml.Document

/-!
# Files

A file is read by the format that its name tells.  A file that is missing, or whose
bytes are no text, is reported before a name that tells no format.
-/

namespace SplitTest.Document

namespace Format

/-- The node that a text stands for. -/
def read? (f : Format) (text : String) : Option Node :=
  match f with
  | json => Json.readDocument? text
  | yaml => Yaml.readDocument? text

/-- The value that a text stands for. -/
def decode? {α : Type} (f : Format) (d : Decoder α) (text : String) : Option α :=
  (f.read? text).bind d

end Format

/-- Why a file could not be loaded. -/
inductive LoadFault where
  /-- It is missing, or no text. -/
  | unreadable (path : String)
  /-- Its name tells no format. -/
  | unknownFormat (path : String)
  /-- It is no document of the wanted type. -/
  | undecodable (path : String)
deriving DecidableEq, Repr

namespace LoadFault

/-- What is said of a name that tells no format. -/
def formatMessage (path : String) : String := path ++ ": expected a .json, .yaml or .yml file"

/-- The text of the fault of a dataset file. -/
def datasetMessage : LoadFault → String
  | unreadable path => "reading dataset " ++ path
  | unknownFormat path => formatMessage path
  | undecodable path => "parsing dataset " ++ path

/-- The text of the fault of a settings file. -/
def settingsMessage : LoadFault → String
  | unreadable path => "settings: cannot read " ++ path
  | unknownFormat path => "settings: " ++ formatMessage path
  | undecodable path => "settings: cannot decode " ++ path

end LoadFault

/-- The value in a file with these bytes, or in a missing file. -/
def load {α : Type} (d : Decoder α) (path : String) (bytes : Option ByteArray) :
    Except LoadFault α :=
  match bytes.bind String.fromUTF8? with
  | none => .error (.unreadable path)
  | some text =>
    match format? path with
    | none => .error (.unknownFormat path)
    | some f =>
      match f.decode? d text with
      | none => .error (.undecodable path)
      | some a => .ok a

end SplitTest.Document
