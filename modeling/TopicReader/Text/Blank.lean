/-!
# `Text.Blank` — white space, and trimming it

## Contents
- **The class.** `blankRanges` / `isBlank`: the white space of Unicode (bidirectional types `WS`, `B`, `S`
  and category `Zs`), wider than `Char.isWhitespace`. `isPadding`: those of them that may surround a number.
- **Trimming.** `trimLeft` / `trimRight` / `trim` on character lists, `trimText` on strings, and `trimPadding`
  around a number.
- **Words.** `splitAtAny`: the pieces between runs of separators.
-/

namespace TopicReader.Text

/-- Membership of a code point in a list of inclusive ranges. -/
def inRanges (ranges : List (Nat × Nat)) (n : Nat) : Bool :=
  ranges.any fun r => r.1 ≤ n && n ≤ r.2

/-- The white-space code points, as inclusive ranges. -/
def blankRanges : List (Nat × Nat) :=
  [(0x9, 0xd), (0x1c, 0x20), (0x85, 0x85), (0xa0, 0xa0), (0x1680, 0x1680), (0x2000, 0x200a),
   (0x2028, 0x2029), (0x202f, 0x202f), (0x205f, 0x205f), (0x3000, 0x3000)]

/-- White space, of any script. -/
def isBlank (c : Char) : Bool := inRanges blankRanges c.toNat

/-- White space that may surround a number: any but the four information separators. -/
def isPadding (c : Char) : Bool := isBlank c && !inRanges [(0x1c, 0x1f)] c.toNat

/-! ## Trimming -/

/-- Drop the blanks in front. -/
def trimLeft (cs : List Char) : List Char := cs.dropWhile isBlank

/-- Drop the blanks at the end. -/
def trimRight (cs : List Char) : List Char := (cs.reverse.dropWhile isBlank).reverse

/-- Drop the blanks at both ends. -/
def trim (cs : List Char) : List Char := trimRight (trimLeft cs)

/-- Drop the blanks at both ends of a string. -/
def trimText (s : String) : String := String.ofList (trim s.toList)

/-- Drop the padding at both ends of a number. -/
def trimPadding (cs : List Char) : List Char :=
  ((cs.dropWhile isPadding).reverse.dropWhile isPadding).reverse

/-! ## Words -/

/-- The pieces between single separators, empty ones included. -/
def splitWhere (sep : Char → Bool) : List Char → List (List Char)
  | [] => [[]]
  | c :: rest =>
    if sep c then [] :: splitWhere sep rest
    else
      match splitWhere sep rest with
      | [] => [[c]]
      | piece :: pieces => (c :: piece) :: pieces

/-- The non-empty pieces between runs of separators. -/
def splitAtAny (sep : Char → Bool) (cs : List Char) : List (List Char) :=
  (splitWhere sep cs).filter fun piece => !piece.isEmpty

/-- There is always at least one piece. -/
theorem splitWhere_ne_nil (sep : Char → Bool) (cs : List Char) : splitWhere sep cs ≠ [] := by
  cases cs with
  | nil => simp [splitWhere]
  | cons c rest =>
    unfold splitWhere
    split
    · simp
    · split <;> simp

/-! ## Searching -/

/-- Does `small` occur somewhere in `large`? -/
def occursIn (small : List Char) : List Char → Bool
  | [] => small.isEmpty
  | c :: rest => small.isPrefixOf (c :: rest) || occursIn small rest

/-- Does the text `small` occur somewhere in the text `large`? -/
def textOccursIn (small large : String) : Bool := occursIn small.toList large.toList

/-- Split at the first occurrence of `mark`: what stands before and after it. -/
def cutAt (mark : List Char) : List Char → Option (List Char × List Char)
  | [] => if mark.isEmpty then some ([], []) else none
  | c :: rest =>
    if mark.isPrefixOf (c :: rest) then some ([], (c :: rest).drop mark.length)
    else (cutAt mark rest).map fun p => (c :: p.1, p.2)

end TopicReader.Text
