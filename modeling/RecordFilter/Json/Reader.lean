import RecordFilter.Json.Basic
import RecordFilter.Text.Digits

/-!
Reading JSON text. Every call of the reader takes at least one character, so the length of the
text bounds the recursion. A number with a fraction or an exponent is read as the nearest
double, and so is an integer beyond a 64-bit word. Of two members of an object with one key the
later counts.
-/
namespace RecordFilter.Json

open Text

def skipSpace (s : List Char) : List Char :=
  s.dropWhile fun c => c == ' ' || c == '\t' || c == '\n' || c == '\r'

/-- The double nearest to a decimal. A decimal that is too large for one is no number. -/
def number (negative : Bool) (whole fraction : List Char) (exponent : Int) : Option Json :=
  let x : Double := .ofDecimal negative (digitsValue (whole ++ fraction))
    (exponent - fraction.length)
  if x.isFinite then some (.float x) else none

def integerOrFloat (negative : Bool) (whole : List Char) : Option Json :=
  let n := digitsValue whole
  if negative then
    if n = 0 then some (.float (.ofMagnitude true 0))
    else if n ≤ 2 ^ 63 then some (.integer (-n))
    else number true whole [] 0
  else if n < 2 ^ 64 then some (.integer n)
  else number false whole [] 0

def readExponent? (s : List Char) : Option (Int × List Char) :=
  let (negative, s) := match s with
    | '-' :: s => (true, s)
    | '+' :: s => (false, s)
    | s => (false, s)
  let (digits, rest) := takeDigits s.length s
  if digits = [] then none
  else some (if negative then -(digitsValue digits : Int) else digitsValue digits, rest)

def readNumber? (s : List Char) : Option (Json × List Char) := do
  let (negative, s) := match s with
    | '-' :: s => (true, s)
    | s => (false, s)
  let (whole, rest) := takeDigits s.length s
  if whole = [] ∨ (whole.head? = some '0' ∧ whole ≠ ['0']) then none
  else
    let (fraction, rest, hasFraction) := match rest with
      | '.' :: rest =>
        let (fraction, rest) := takeDigits rest.length rest
        (fraction, rest, true)
      | rest => ([], rest, false)
    if hasFraction ∧ fraction = [] then none
    else
      let (exponent, rest) ← match rest with
        | 'e' :: rest => (readExponent? rest).map fun (e, rest) => (some e, rest)
        | 'E' :: rest => (readExponent? rest).map fun (e, rest) => (some e, rest)
        | rest => some (none, rest)
      if hasFraction ∨ exponent.isSome then
        let json ← number negative whole fraction (exponent.getD 0)
        some (json, rest)
      else
        let json ← integerOrFloat negative whole
        some (json, rest)

def hexDigit? (c : Char) : Option Nat :=
  if c.isDigit then some (c.toNat - 48)
  else if 'a' ≤ c ∧ c ≤ 'f' then some (c.toNat - 87)
  else if 'A' ≤ c ∧ c ≤ 'F' then some (c.toNat - 55)
  else none

def hexFour? : List Char → Option (Nat × List Char)
  | a :: b :: c :: d :: rest => do
    let a ← hexDigit? a
    let b ← hexDigit? b
    let c ← hexDigit? c
    let d ← hexDigit? d
    some (4096 * a + 256 * b + 16 * c + d, rest)
  | _ => none

/-- The character after `\u`; a character beyond the first plane takes two escapes. -/
def unicodeEscape? (s : List Char) : Option (Char × List Char) := do
  let (n, rest) ← hexFour? s
  if 0xD800 ≤ n ∧ n < 0xDC00 then
    match rest with
    | '\\' :: 'u' :: rest =>
      let (m, rest) ← hexFour? rest
      if 0xDC00 ≤ m ∧ m < 0xE000 then
        some (Char.ofNat (0x10000 + 1024 * (n - 0xD800) + (m - 0xDC00)), rest)
      else none
    | _ => none
  else if 0xDC00 ≤ n ∧ n < 0xE000 then none
  else some (Char.ofNat n, rest)

def escape? : List Char → Option (Char × List Char)
  | '"' :: rest => some ('"', rest)
  | '\\' :: rest => some ('\\', rest)
  | '/' :: rest => some ('/', rest)
  | 'b' :: rest => some (Char.ofNat 8, rest)
  | 'f' :: rest => some (Char.ofNat 12, rest)
  | 'n' :: rest => some ('\n', rest)
  | 'r' :: rest => some ('\r', rest)
  | 't' :: rest => some ('\t', rest)
  | 'u' :: rest => unicodeEscape? rest
  | _ => none

def readString? : Nat → List Char → Option (List Char × List Char)
  | 0, _ => none
  | fuel + 1, s =>
    match s with
    | [] => none
    | '"' :: rest => some ([], rest)
    | '\\' :: rest => do
      let (c, rest) ← escape? rest
      let (cs, rest) ← readString? fuel rest
      some (c :: cs, rest)
    | c :: rest =>
      if c.toNat < 32 then none
      else do
        let (cs, rest) ← readString? fuel rest
        some (c :: cs, rest)

def keyword? (word : String) (json : Json) (s : List Char) : Option (Json × List Char) :=
  if word.toList.isPrefixOf s then some (json, s.drop word.length) else none

/-- Adds a member in front of those read after it, unless one of them has its key. -/
def addMember (key : String) (json : Json) (members : List (String × Json)) :
    List (String × Json) :=
  if (members.lookup key).isSome then members else (key, json) :: members

mutual

def readValue? : Nat → List Char → Option (Json × List Char)
  | 0, _ => none
  | fuel + 1, s =>
    match skipSpace s with
    | '"' :: rest => do
      let (cs, rest) ← readString? rest.length rest
      some (text cs, rest)
    | '[' :: rest =>
      match skipSpace rest with
      | ']' :: rest => some (.array [], rest)
      | rest => do
        let (items, rest) ← readItems? fuel rest
        some (.array items, rest)
    | '{' :: rest =>
      match skipSpace rest with
      | '}' :: rest => some (.object [], rest)
      | rest => do
        let (members, rest) ← readMembers? fuel rest
        some (.object members, rest)
    | 't' :: rest => keyword? "true" (.bool true) ('t' :: rest)
    | 'f' :: rest => keyword? "false" (.bool false) ('f' :: rest)
    | 'n' :: rest => keyword? "null" .null ('n' :: rest)
    | rest => readNumber? rest

def readItems? : Nat → List Char → Option (List Json × List Char)
  | 0, _ => none
  | fuel + 1, s => do
    let (item, rest) ← readValue? fuel s
    match skipSpace rest with
    | ']' :: rest => some ([item], rest)
    | ',' :: rest =>
      let (items, rest) ← readItems? fuel rest
      some (item :: items, rest)
    | _ => none

def readMembers? : Nat → List Char → Option (List (String × Json) × List Char)
  | 0, _ => none
  | fuel + 1, s =>
    match skipSpace s with
    | '"' :: rest => do
      let (key, rest) ← readString? rest.length rest
      match skipSpace rest with
      | ':' :: rest =>
        let (json, rest) ← readValue? fuel rest
        match skipSpace rest with
        | '}' :: rest => some ([(String.ofList key, json)], rest)
        | ',' :: rest =>
          let (members, rest) ← readMembers? fuel rest
          some (addMember (String.ofList key) json members, rest)
        | _ => none
      | _ => none
    | _ => none

end

/-- A text that holds one document and nothing after it but space. -/
def read? (s : List Char) : Option Json :=
  match readValue? (s.length + 1) s with
  | some (json, rest) => if skipSpace rest = [] then some json else none
  | none => none

end RecordFilter.Json
