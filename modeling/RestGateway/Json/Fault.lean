import RestGateway.Json.Printer
import RestGateway.Text.Quoted

/-!
# What is wrong with a text, and where

A fault found while reading holds the input that was still unread, so that its line and column can
be told once the whole input is known. A fault in a value that has been read already has no place.
-/

set_option autoImplicit false

namespace RestGateway.Json

inductive Found where
  | null
  | bool (b : Bool)
  | number (n : Number)
  | string (s : String)
  | list
  | object

inductive Cause where
  | endOfValue
  | endOfString
  | endOfList
  | endOfObject
  | valueExpected
  | keywordExpected
  | colonExpected
  | listGoesOn
  | objectGoesOn
  | keyExpected
  | commaLast
  | textAfter
  | invalidNumber
  | numberTooLarge
  | invalidEscape
  | controlInString
  | loneSurrogate
  | cutSurrogate
  | notUnicode
  | tooDeep
  | wrongType (found : Found) (wanted : String)
  | wrongValue (n : Int) (wanted : String)
  | wrongLength (n : Nat) (wanted : String)
  | duplicateMember (name : String)
  | missingMember (name : String)
  | unknownName (name : String) (wanted : String)

/-- A cause with the input unread at it. `ahead` places it at the first unread byte instead of the
last one read, and `back` moves it to the left. -/
structure Fault where
  cause : Cause
  unread : List UInt8
  ahead : Bool
  back : Nat

def Found.of : Json → Found
  | .null => .null
  | .bool b => .bool b
  | .number n => .number n
  | .string s => .string s
  | .list _ => .list
  | .object _ => .object

def inBackticks (s : String) : String := "`" ++ s ++ "`"

def Found.text : Found → String
  | .null => "null"
  | .bool b => "boolean " ++ inBackticks (if b then "true" else "false")
  | .number (.int n) => "integer " ++ inBackticks (String.ofList (Number.integerText n))
  | .number (.float x) => "floating point " ++ inBackticks (String.ofList (Number.layout.write x))
  | .string s => "string " ++ Text.quoted s
  | .list => "sequence"
  | .object => "map"

def Cause.message : Cause → String
  | .endOfValue => "EOF while parsing a value"
  | .endOfString => "EOF while parsing a string"
  | .endOfList => "EOF while parsing a list"
  | .endOfObject => "EOF while parsing an object"
  | .valueExpected => "expected value"
  | .keywordExpected => "expected ident"
  | .colonExpected => "expected `:`"
  | .listGoesOn => "expected `,` or `]`"
  | .objectGoesOn => "expected `,` or `\x7d`"
  | .keyExpected => "key must be a string"
  | .commaLast => "trailing comma"
  | .textAfter => "trailing characters"
  | .invalidNumber => "invalid number"
  | .numberTooLarge => "number out of range"
  | .invalidEscape => "invalid escape"
  | .controlInString => "control character (\\u0000-\\u001F) found while parsing a string"
  | .loneSurrogate => "lone leading surrogate in hex escape"
  | .cutSurrogate => "unexpected end of hex escape"
  | .notUnicode => "invalid unicode code point"
  | .tooDeep => "recursion limit exceeded"
  | .wrongType found wanted => "invalid type: " ++ found.text ++ ", expected " ++ wanted
  | .wrongValue n wanted =>
    "invalid value: " ++ (Found.number (.int n)).text ++ ", expected " ++ wanted
  | .wrongLength n wanted => "invalid length " ++ toString n ++ ", expected " ++ wanted
  | .duplicateMember name => "duplicate field " ++ inBackticks name
  | .missingMember name => "missing field " ++ inBackticks name
  | .unknownName name wanted => "unknown variant " ++ inBackticks name ++ ", expected " ++ wanted

structure Position where
  line : Nat
  column : Nat
  deriving DecidableEq, Repr

/-- The line counts line feeds from one, the column the bytes since the last one. -/
def Position.after (read : List UInt8) : Position :=
  read.foldl (fun p b => if b = 0x0A then ⟨p.line + 1, 0⟩ else ⟨p.line, p.column + 1⟩) ⟨1, 0⟩

def Fault.position (f : Fault) (input : List UInt8) : Position :=
  let read := input.length - f.unread.length
  let p := Position.after (input.take (if f.ahead then read + 1 else read))
  ⟨p.line, p.column - f.back⟩

def Fault.message (f : Fault) (input : List UInt8) : String :=
  let p := f.position input
  f.cause.message ++ " at line " ++ toString p.line ++ " column " ++ toString p.column

end RestGateway.Json
