import RestGateway.Text.Split

/-!
# Routes

Paths are matched segment by segment, as they were written. A segment may be empty unless it is the
last one.
-/

set_option autoImplicit false

namespace RestGateway

/-- What a path leads to; the segments for the type and the id are not decoded yet. -/
inductive Route where
  | versions
  | icon
  | collection (entityType : List Char)
  | summary (entityType : List Char)
  | entity (entityType id : List Char)
  | revival (entityType id : List Char)
  deriving DecidableEq, Repr

namespace Route

def iconSegment : List Char := "favicon.ico".toList
def summarySegment : List Char := "summarize".toList
def revivalSegment : List Char := "revive".toList

def ofSegments? : List (List Char) → Option Route
  | [a] =>
    if a.isEmpty then some .versions
    else if a = iconSegment then some .icon
    else some (.collection a)
  | [a, b] =>
    if b.isEmpty then none
    else if b = summarySegment then some (.summary a)
    else some (.entity a b)
  | [a, b, c] => if c = revivalSegment then some (.revival a b) else none
  | _ => none

def ofPath? : List Char → Option Route
  | '/' :: rest => ofSegments? (Text.splitOn '/' rest)
  | _ => none

def methods : Route → List String
  | versions | icon | summary _ => ["GET", "HEAD"]
  | collection _ => ["GET", "HEAD", "POST"]
  | entity _ _ => ["GET", "HEAD", "PATCH", "DELETE"]
  | revival _ _ => ["POST"]

def allows (r : Route) (method : String) : Bool := r.methods.contains method

end Route

end RestGateway
