/-!
White space, in the sense of the Unicode property of that name, and the two operations that depend
on it: trimming a text and cutting it into words.
-/

namespace HostTypes

/-- Characters with the `White_Space` property. -/
def isBlank (c : Char) : Bool :=
  let code := c.toNat
  (9 ≤ code && code ≤ 13) || code == 0x20 || code == 0x85 || code == 0xA0 || code == 0x1680 ||
    (0x2000 ≤ code && code ≤ 0x200A) || code == 0x2028 || code == 0x2029 || code == 0x202F ||
    code == 0x205F || code == 0x3000

def trimBlanks (text : List Char) : List Char :=
  ((text.dropWhile isBlank).reverse.dropWhile isBlank).reverse

/-- The maximal runs of characters that are no white space. -/
def wordsOf : List Char → List (List Char)
  | [] => []
  | c :: rest =>
    if isBlank c then wordsOf rest
    else
      match rest with
      | [] => [[c]]
      | next :: _ =>
        if isBlank next then [c] :: wordsOf rest
        else
          match wordsOf rest with
          | [] => [[c]]
          | word :: words => (c :: word) :: words

end HostTypes
