import RecordFilter.Binary.Shortest
import RecordFilter.Json.Basic

/-!
Writing JSON text, without space between the parts. Only the quote, the backslash and the
control characters are escaped, some with a letter and the others with their number; a number
that is not finite is written as null.
-/
namespace RecordFilter.Json

/-- The characters that are escaped with one other, beside it. -/
def letterEscapes : List (Char × Char) :=
  [('"', '"'), ('\\', '\\'), (Char.ofNat 8, 'b'), ('\t', 't'), ('\n', 'n'), (Char.ofNat 12, 'f'),
   ('\r', 'r')]

def escaped (c : Char) : List Char :=
  match letterEscapes.lookup c with
  | some letter => ['\\', letter]
  | none =>
    if c.toNat < 32 then '\\' :: 'u' :: '0' :: '0' :: Text.hexByte c.toNat.toUInt8
    else [c]

def quoted (s : String) : List Char := '"' :: s.toList.flatMap escaped ++ ['"']

mutual

def write : Json → List Char
  | .null => "null".toList
  | .bool b => if b then "true".toList else "false".toList
  | .integer z => Text.signed z
  | .float x => if x.isFinite then x.render else "null".toList
  | .string s => quoted s
  | .array items => '[' :: writeItems items ++ [']']
  | .object members => '{' :: writeMembers members ++ ['}']

def writeItems : List Json → List Char
  | [] => []
  | [json] => write json
  | json :: items => write json ++ ',' :: writeItems items

def writeMembers : List (String × Json) → List Char
  | [] => []
  | [(key, json)] => quoted key ++ ':' :: write json
  | (key, json) :: members => quoted key ++ ':' :: write json ++ ',' :: writeMembers members

end

end RecordFilter.Json
