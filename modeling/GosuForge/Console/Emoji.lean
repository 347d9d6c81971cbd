import GosuForge.Console.EmojiCodes
import GosuForge.Text.Case
import GosuForge.Text.Blank
import GosuForge.Text.Line

/-!
# Pictures in texts

A code between colons stands for a picture, and `Emoji.shown` puts the picture in its place. Letter
case does not matter; `-emoji` or `-text` at the end of a code asks for one of two forms of the
picture. What is no code stays as it is, with both of its colons.
-/

namespace GosuForge.Emoji

/-- The picture of a code among words that are codes and pictures in turn. -/
def pictureAmong (code : String) : List String → Option String
  | key :: picture :: rest => if key = code then some picture else pictureAmong code rest
  | _ => none

def picture? (code : String) : Option String :=
  codes.findSome? fun part => pictureAmong code (Text.split ' ' part)

/-- What may end a code, with the character that it adds to the picture. -/
def endings : List (List Char × List Char) :=
  [([':'], []), ("-emoji:".toList, ['\ufe0f']), ("-text:".toList, ['\ufe0e'])]

/-- The code that a text begins with after its first colon, what its ending adds, and the rest; a
code holds no blank. -/
def codeAt? : List Char → Option (List Char × List Char × List Char)
  | [] => none
  | c :: rest =>
    match endings.find? fun (ending, _) => ending.isPrefixOf (c :: rest) with
    | some (ending, form) => some ([], form, (c :: rest).drop ending.length)
    | none =>
      if Text.isBlank c then none
      else (codeAt? rest).map fun (code, form, after) => (c :: code, form, after)

/-- A text with pictures in the place of codes; the fuel exceeds its length. -/
def shownChars : Nat → List Char → List Char
  | 0, cs => cs
  | _ + 1, [] => []
  | fuel + 1, ':' :: rest =>
    match codeAt? rest with
    | none => ':' :: shownChars fuel rest
    | some (code, form, after) =>
      let picture := match picture? (Text.lower (String.ofList code)) with
        | some picture => picture.toList ++ form
        | none => ':' :: rest.take (rest.length - after.length)
      picture ++ shownChars fuel after
  | fuel + 1, c :: rest => c :: shownChars fuel rest

def shown (cs : List Char) : List Char := shownChars (cs.length + 1) cs

end GosuForge.Emoji
