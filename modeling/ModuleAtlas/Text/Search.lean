/-!
# Finding texts in texts

Beginnings, ends, first occurrences and the pieces between marks, on lists of
characters.
-/

namespace ModuleAtlas.Text

/-- What follows a beginning, when the text has it. -/
def afterStart? (start : List Char) (text : List Char) : Option (List Char) :=
  match start, text with
  | [], text => some text
  | _ :: _, [] => none
  | c :: start, d :: text => if c = d then afterStart? start text else none

/-- What precedes an end, when the text has it. -/
def beforeEnd? (final : List Char) (text : List Char) : Option (List Char) :=
  (afterStart? final.reverse text.reverse).map List.reverse

/-- Split a text around the first occurrence of a part. -/
def splitAt? (part : List Char) :
    List Char → Option (List Char × List Char)
  | [] => (afterStart? part []).map fun after => ([], after)
  | c :: rest =>
    match afterStart? part (c :: rest) with
    | some after => some ([], after)
    | none => (splitAt? part rest).map fun (before, after) =>
      (c :: before, after)

/-- Whether a part occurs in a text. -/
def occursIn (part text : List Char) : Bool := (splitAt? part text).isSome

/-- The text in front of the first occurrence of a mark, and the text behind
it; everything and nothing when there is none. -/
def cut (mark : Char) (text : List Char) : List Char × List Char :=
  let front := text.takeWhile (· ≠ mark)
  (front, text.drop (front.length + 1))

/-- The pieces of a text between the occurrences of a mark. -/
def pieces (mark : Char) : List Char → List (List Char)
  | [] => [[]]
  | c :: rest =>
    if c = mark then [] :: pieces mark rest
    else
      match pieces mark rest with
      | [] => [[c]]
      | piece :: others => (c :: piece) :: others

/-- Put pieces together again, with the mark between them. -/
def rejoin (mark : Char) (pieces : List (List Char)) : List Char :=
  List.intercalate [mark] pieces

end ModuleAtlas.Text
