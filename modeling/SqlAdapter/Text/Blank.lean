/-
White space in the sense of Unicode, and the three things done with it: cutting
it off both ends of a text, splitting a text into words, and telling whether a
character is one.
-/

namespace SqlAdapter.Text

/-- The twenty-five white space characters. -/
def isBlank (c : Char) : Bool :=
  let n := c.toNat
  (9 ≤ n && n ≤ 13) || n = 0x20 || n = 0x85 || n = 0xA0 || n = 0x1680 ||
    (0x2000 ≤ n && n ≤ 0x200A) || n = 0x2028 || n = 0x2029 || n = 0x202F || n = 0x205F || n = 0x3000

/-- Without the white space in front. -/
def trimStart (cs : List Char) : List Char := cs.dropWhile isBlank

/-- Without the white space at either end. -/
def trimChars (cs : List Char) : List Char := (trimStart (trimStart cs).reverse).reverse

/-- Without the white space at either end. -/
def trim (text : String) : String := String.ofList (trimChars text.toList)

/-- The words of a text: a word so far, in reverse, and what is still to be read. -/
def wordsFrom (word : List Char) : List Char → List (List Char)
  | [] => if word = [] then [] else [word.reverse]
  | c :: cs =>
    if isBlank c then if word = [] then wordsFrom [] cs else word.reverse :: wordsFrom [] cs
    else wordsFrom (c :: word) cs

/-- The pieces of a text between runs of white space, none of them empty. -/
def words (cs : List Char) : List (List Char) := wordsFrom [] cs

/-- The pieces of a text between the places where a character stands; always at least one. -/
def splitAt (separator : Char) : List Char → List (List Char)
  | [] => [[]]
  | c :: cs =>
    if c = separator then [] :: splitAt separator cs
    else match splitAt separator cs with
      | piece :: pieces => (c :: piece) :: pieces
      | [] => [[c]]

end SqlAdapter.Text
