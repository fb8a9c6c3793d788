/-!
Blank characters and the lines of a text. Blanks separate the words of a script. Lines are what a
reader sees on a screen, so they end at more characters than the two that line numbers count.
-/
namespace CurryScript.Text

def blankRanges : List (Nat × Nat) :=
  [(0x09, 0x0d), (0x1c, 0x20), (0x85, 0x85), (0xa0, 0xa0), (0x1680, 0x1680), (0x2000, 0x200a),
    (0x2028, 0x2029), (0x202f, 0x202f), (0x205f, 0x205f), (0x3000, 0x3000)]

def isBlank (c : Char) : Bool :=
  blankRanges.any fun (low, high) => low ≤ c.toNat && c.toNat ≤ high

def lineEnds : List Char :=
  ['\n', '\r', '\x0b', '\x0c', '\x1c', '\x1d', '\x1e', '\u0085', '\u2028', '\u2029']

def endsDisplayedLine (c : Char) : Bool := lineEnds.contains c

def dropLineEnd : List Char → List Char
  | '\r' :: '\n' :: rest => rest
  | _ :: rest => rest
  | [] => []

theorem length_dropLineEnd_le (cs : List Char) : (dropLineEnd cs).length ≤ cs.length - 1 := by
  unfold dropLineEnd
  split <;> simp

/-- The displayed lines of a text. A line end at the very end of the text opens no further line. -/
def lines (cs : List Char) : List (List Char) :=
  match cs with
  | [] => []
  | c :: rest =>
    let line := (c :: rest).takeWhile (!endsDisplayedLine ·)
    line :: lines (dropLineEnd ((c :: rest).dropWhile (!endsDisplayedLine ·)))
termination_by cs.length
decreasing_by
  have shorter := length_dropLineEnd_le ((c :: rest).dropWhile (!endsDisplayedLine ·))
  have bounded := (List.dropWhile_suffix (l := c :: rest) (!endsDisplayedLine ·)).length_le
  simp only [List.length_cons] at *
  omega

def strip (cs : List Char) : List Char :=
  ((cs.dropWhile isBlank).reverse.dropWhile isBlank).reverse

def normalizeLineFeeds : List Char → List Char
  | [] => []
  | '\r' :: '\n' :: rest => '\n' :: normalizeLineFeeds rest
  | '\r' :: rest => '\n' :: normalizeLineFeeds rest
  | c :: rest => c :: normalizeLineFeeds rest

end CurryScript.Text
