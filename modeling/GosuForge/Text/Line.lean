/-!
# Lines

A text is a list of lines separated by line feeds: `splitLines` and `joinLines` are the two
directions, and `withEnding` exchanges every line feed for another separator.
-/

namespace GosuForge.Text

/-- The parts of a text between the separators `sep`; there is always at least one. -/
def splitChars (sep : Char) : List Char → List (List Char)
  | [] => [[]]
  | c :: cs =>
    if c = sep then [] :: splitChars sep cs
    else
      match splitChars sep cs with
      | [] => [[c]]
      | part :: parts => (c :: part) :: parts

def split (sep : Char) (s : String) : List String := (splitChars sep s.toList).map String.ofList

def splitLines (s : String) : List String := split '\n' s

/-- The texts in order, with `sep` between each two. -/
def join (sep : String) : List String → String
  | [] => ""
  | [s] => s
  | s :: t :: rest => s ++ sep ++ join sep (t :: rest)

def joinLines (lines : List String) : String := join "\n" lines

/-- The text with every line feed written as `ending`. -/
def withEnding (ending s : String) : String := join ending (splitLines s)

/-- Reads every line end, be it CR LF, CR or LF, as one line feed. -/
def unifyEndings : List Char → List Char
  | [] => []
  | '\r' :: '\n' :: cs => '\n' :: unifyEndings cs
  | '\r' :: cs => '\n' :: unifyEndings cs
  | c :: cs => c :: unifyEndings cs

/-- The text `n` times in a row. -/
def copies (s : String) : Nat → String
  | 0 => ""
  | n + 1 => s ++ copies s n

/-- Whether the text begins with `start`. -/
def startsWith (start s : String) : Bool := start.toList.isPrefixOf s.toList

end GosuForge.Text
