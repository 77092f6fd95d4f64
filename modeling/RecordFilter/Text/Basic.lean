/-!
Texts as lists of characters. A character is blank when Unicode gives it the property White_Space;
trimming takes the blank characters off both ends of a text and leaves those inside it. Names and
keywords are compared after folding the twenty-six ASCII capitals to their small letters; every
other character stands for itself alone.
-/
namespace RecordFilter.Text

def isBlank (c : Char) : Bool :=
  let n := c.toNat
  (9 ≤ n && n ≤ 13) || n == 0x20 || n == 0x85 || n == 0xA0 || n == 0x1680 ||
  (0x2000 ≤ n && n ≤ 0x200A) || n == 0x2028 || n == 0x2029 || n == 0x202F || n == 0x205F ||
  n == 0x3000

def trimStart (s : List Char) : List Char := s.dropWhile isBlank

def trimEnd (s : List Char) : List Char := (s.reverse.dropWhile isBlank).reverse

def trim (s : List Char) : List Char := trimEnd (trimStart s)

def foldCase (s : List Char) : List Char := s.map Char.toLower

def sameLetters (s t : List Char) : Bool := foldCase s == foldCase t

/-- The rest of a text after a word written in any case, when it starts with that word. -/
def dropWord? : List Char → List Char → Option (List Char)
  | [], s => some s
  | _ :: _, [] => none
  | w :: ws, c :: cs => if w.toLower = c.toLower then dropWord? ws cs else none

/-- What stands before the first `sep` and what stands after it. -/
def cut? (sep : Char) : List Char → Option (List Char × List Char)
  | [] => none
  | c :: cs =>
    if c = sep then some ([], cs)
    else (cut? sep cs).map fun (before, after) => (c :: before, after)

end RecordFilter.Text
