/-!
# White space, and the words of a text

White space is the Unicode property White_Space. The words of a text are its pieces between white
space, empty ones left out.
-/
namespace SearchRetrieve.Text

/-- The property White_Space. -/
def isBlank (c : Char) : Bool :=
  let n := c.toNat
  (0x9 ≤ n && n ≤ 0xD) || n == 0x20 || n == 0x85 || n == 0xA0 || n == 0x1680 ||
    (0x2000 ≤ n && n ≤ 0x200A) || n == 0x2028 || n == 0x2029 || n == 0x202F || n == 0x205F ||
    n == 0x3000

def hasBlank (cs : List Char) : Bool := cs.any isBlank

def trimStartChars (cs : List Char) : List Char := cs.dropWhile isBlank

def trimEndChars (cs : List Char) : List Char := (cs.reverse.dropWhile isBlank).reverse

def trimChars (cs : List Char) : List Char := trimEndChars (trimStartChars cs)

def trim (s : String) : String := String.ofList (trimChars s.toList)

/-- The pieces of a text between the occurrences of `sep`, always one more than there are. -/
def splitAt (sep : Char) (s : String) : List String := (s.toList.splitOn sep).map String.ofList

/-- The words of a text: its longest runs without white space. -/
def wordsChars (cs : List Char) : List (List Char) :=
  (cs.splitOnP isBlank).filter fun piece => !piece.isEmpty

def words (s : String) : List String := (wordsChars s.toList).map String.ofList

/-- The text before the first character of a class and, if there is one, the text after it. -/
def cut (sep : Char → Bool) : List Char → List Char × Option (List Char)
  | [] => ([], none)
  | c :: rest =>
    if sep c then ([], some rest)
    else
      let (before, after) := cut sep rest
      (c :: before, after)

def asciiLower (s : String) : String := String.ofList (s.toList.map Char.toLower)

def asciiUpper (s : String) : String := String.ofList (s.toList.map Char.toUpper)

def sameIgnoringCase (s t : String) : Bool := asciiLower s == asciiLower t

end SearchRetrieve.Text
