/-!
# Why a filter query is refused
-/

set_option autoImplicit false

namespace RestGateway

inductive QueryError where
  /-- No active format claims the input. -/
  | noFormat
  /-- The input has not the outer shape of the format. -/
  | invalidFormat
  /-- The body of a call is neither a triple nor a list of triples. -/
  | invalidBody
  /-- The input does not begin as the format's texts do. -/
  | missingStart (start : String)
  | missingKey (name : String)
  | unsupportedOperator (text : String)
  /-- The input is claimed but does not decode. -/
  | decode (diagnostic : String)
  deriving DecidableEq, Repr

namespace QueryError

def message : QueryError → String
  | noFormat => "No QueryFormats can parse input"
  | invalidFormat => "Invalid query format"
  | invalidBody => "Invalid query filter format"
  | missingStart start => "Missing Prefix: '" ++ start ++ "'"
  | missingKey name => "Missing key: '" ++ name ++ "'"
  | unsupportedOperator text => "Unsupported logical operator: '" ++ text ++ "'"
  | decode diagnostic => diagnostic

/-- Whether the input is no query at all, rather than a broken one. -/
def isMismatch : QueryError → Bool
  | noFormat => true
  | _ => false

end QueryError

end RestGateway
