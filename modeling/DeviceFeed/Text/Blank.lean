/-!
# Blank characters

This file holds the characters that count as white space between words, and
the ways of cutting a text at them.
-/

namespace DeviceFeed.Text

def isBlank (c : Char) : Bool :=
  let v := c.toNat
  (0x09 ≤ v && v ≤ 0x0D) || v == 0x20 || v == 0x85 || v == 0xA0 || v == 0x1680 ||
    (0x2000 ≤ v && v ≤ 0x200A) || v == 0x2028 || v == 0x2029 || v == 0x202F ||
    v == 0x205F || v == 0x3000

/-- The characters without the blanks at the end. -/
def trimRight (cs : List Char) : List Char :=
  (cs.reverse.dropWhile isBlank).reverse

/-- The characters without the blanks at both ends. -/
def trim (cs : List Char) : List Char :=
  trimRight (cs.dropWhile isBlank)

/-- Puts an item in front of the pieces of a list that was cut at some
separators. -/
def consPiece {α : Type} (isSeparator : α → Bool) (c : α) (ps : List (List α)) :
    List (List α) :=
  if isSeparator c then
    [] :: ps
  else
    match ps with
    | [] => [[c]]
    | piece :: more => (c :: piece) :: more

/-- The pieces between the separators, in order. There is one piece more than
there are separators, and pieces may be empty. -/
def pieces {α : Type} (isSeparator : α → Bool) (cs : List α) : List (List α) :=
  cs.foldr (consPiece isSeparator) [[]]

/-- Lines as they are written, each with a newline at its end. -/
def unlines (lines : List String) : String :=
  String.join (lines.map (· ++ "\n"))

/-- The words between blanks, none of them empty. -/
def words (cs : List Char) : List (List Char) :=
  (pieces isBlank cs).filter (fun word => !word.isEmpty)

end DeviceFeed.Text
