import SplitTest.Text.Ascii

/-!
# Response headers

Headers are kept until the response is sent; after that none can be added.
-/

namespace SplitTest

/-- The headers of a response that are waiting to be sent. -/
structure HeaderBuffer where
  /-- Names and values in order. -/
  pending : List (String × String)
  /-- Whether the response has been sent. -/
  sent : Bool
deriving DecidableEq, Repr, Inhabited

namespace HeaderBuffer

/-- The buffer of a response that has not been started. -/
def empty : HeaderBuffer := ⟨[], false⟩

/-- Add a header, unless the response has been sent. -/
def emit? (b : HeaderBuffer) (name value : String) : Option HeaderBuffer :=
  if b.sent then none else some { b with pending := b.pending ++ [(name, value)] }

/-- The fault of adding a header to a response that has been sent. -/
def sentMessage (name : String) : String :=
  "headers already sent, cannot emit `" ++ name ++ "`"

/-- The value of the first waiting header of a name, up to the case of ASCII letters. -/
def get? (b : HeaderBuffer) (name : String) : Option String :=
  (b.pending.find? fun h => Text.equalFolded h.1 name).map Prod.snd

/-- Send the response: the headers that go with it, and the buffer after that. -/
def send (b : HeaderBuffer) : List (String × String) × HeaderBuffer := (b.pending, ⟨[], true⟩)

end HeaderBuffer

end SplitTest
