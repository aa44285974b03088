/-!
# Pieces between separators

Cutting a text at every occurrence of a separator, and putting pieces back
together with one between each two.
-/

namespace KeyConsole.Text

/-- The pieces of the characters between occurrences of `sep`, found from left
to right without overlap.  The piece under way is `piece`, and the first
`skip` characters belong to an occurrence that has been found. -/
def piecesFrom (sep : List Char) (piece : List Char) (skip : Nat) :
    List Char → List (List Char)
  | [] => [piece]
  | c :: cs =>
    match skip with
    | skip + 1 => piecesFrom sep piece skip cs
    | 0 =>
      if sep.isPrefixOf (c :: cs) then
        piece :: piecesFrom sep [] (sep.length - 1) cs
      else piecesFrom sep (piece ++ [c]) 0 cs

/-- The pieces of a text between the occurrences of a separator.  An empty
separator does not occur. -/
def pieces (sep text : String) : List String :=
  if sep.isEmpty then [text]
  else (piecesFrom sep.toList [] 0 text.toList).map String.ofList

/-- Texts in turn, with `sep` between each two. -/
def join (sep : String) (texts : List String) : String :=
  sep.intercalate texts

end KeyConsole.Text
