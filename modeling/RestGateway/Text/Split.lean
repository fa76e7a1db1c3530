/-!
# Texts cut at separators
-/

set_option autoImplicit false

namespace RestGateway.Text

/-- The parts between the characters that are separators, one part at least. -/
def splitWhere (isSeparator : Char → Bool) : List Char → List (List Char)
  | [] => [[]]
  | c :: rest =>
    if isSeparator c then [] :: splitWhere isSeparator rest
    else
      match splitWhere isSeparator rest with
      | part :: parts => (c :: part) :: parts
      | [] => [[c]]

def splitOn (separator : Char) (cs : List Char) : List (List Char) :=
  splitWhere (· == separator) cs

def splitOnce? (separator : Char) (cs : List Char) : Option (List Char × List Char) :=
  match cs.dropWhile (· != separator) with
  | _ :: rest => some (cs.takeWhile (· != separator), rest)
  | [] => none

end RestGateway.Text
