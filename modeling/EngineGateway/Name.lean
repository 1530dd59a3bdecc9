import EngineGateway.Failure
import EngineGateway.Text.Percent

/-!
# Names

What an index, a document, a field or a pipeline is called. A name is a text; but a caller may hand
in any value, and nobody checks it on the way: a client library takes it as it takes a text, a
message shows it, and only where a text is really needed does it do harm.

In a path a name becomes one segment: what could end the segment or begin a query is
percent-encoded. In the names of indices commas and asterisks stay, because there they select
several indices. A text that cannot be written in octets is no segment, and what is no text is none
either.
-/

namespace EngineGateway

/-- The name of something at an engine, as a caller gives it. -/
abbrev Name : Type := Json

namespace Name

/-- The text that a name is, where it has to be one. -/
def text (name : Name) : Except Failure Text := name.textOr .wrongKind

end Name

namespace Rest

/-- A text as a segment in which the characters of `safe` stand. -/
def segmentWith (safe : List Char) (text : Text) : Except Failure String :=
  match Text.Percent.encode? safe text with
  | some written => .ok written
  | none => .error .unencodable

/-- A name as a segment, all of it protected. -/
def segment (name : Name) : Except Failure String := do segmentWith [] (← name.text)

/-- The name of an index as a segment. -/
def indexSegment (name : Name) : Except Failure String := do
  segmentWith ['*', ','] (← name.text)

/-- The path of a pipeline. -/
def pipelinePath (id : Name) : Except Failure String := do
  return "/_ingest/pipeline/" ++ (← segment id)

/-- The path of a document with a type. -/
def typedPath (index type id : Name) : Except Failure String := do
  return "/" ++ (← segment index) ++ "/" ++ (← segment type) ++ "/" ++ (← segment id)

end Rest

end EngineGateway
