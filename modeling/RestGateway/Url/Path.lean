import RestGateway.Text.Split
import RestGateway.Url.Percent

/-!
# Paths of URLs

A path is a list of segments, each written with a slash before it. One dot stands for the directory
reached so far and two dots for the one above it, also where dots are percent-encoded.
-/

set_option autoImplicit false

namespace RestGateway.Url

/-- A segment with the percent-encoded dots decoded and all else kept. -/
def plainDots : List Char → List Char
  | [] => []
  | c :: '2' :: d :: more =>
    if c = '%' ∧ (d = 'e' ∨ d = 'E') then '.' :: plainDots more
    else c :: plainDots ('2' :: d :: more)
  | c :: rest => c :: plainDots rest

def isSingleDot (s : List Char) : Bool := plainDots s == ['.']

def isDoubleDot (s : List Char) : Bool := plainDots s == ['.', '.']

def isSlash (special : Bool) (c : Char) : Bool := c == '/' || (special && c == '\\')

/-- Walks through the parts of a path; `done` holds the segments reached, last one first. -/
def walk (done : List (List Char)) : List (List Char) → List (List Char)
  | [] => done.reverse
  | [last] =>
    if isDoubleDot last then ([] :: done.tail).reverse
    else if isSingleDot last then ([] :: done).reverse
    else (Percent.encode Percent.inPath last :: done).reverse
  | s :: t :: rest =>
    if isDoubleDot s then walk done.tail (t :: rest)
    else if isSingleDot s then walk done (t :: rest)
    else walk (Percent.encode Percent.inPath s :: done) (t :: rest)

/-- The segments of a path text. A URL of a special scheme always has a path; a slash at the front is
part of the first segment's notation. -/
def segments (special : Bool) (text : List Char) : List (List Char) :=
  match text with
  | [] => if special then [[]] else []
  | c :: rest => walk [] (Text.splitWhere (isSlash special) (if isSlash special c then rest else text))

inductive Path where
  /-- Text without structure, after a scheme that no slash follows. -/
  | opaqueText (text : List Char)
  | segments (parts : List (List Char))
  deriving DecidableEq, Repr

def Path.chars : Path → List Char
  | .opaqueText text => text
  | .segments parts => parts.flatMap ('/' :: ·)

end RestGateway.Url
