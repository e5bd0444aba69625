/-!
# Lines

Files end lines with a line feed, a carriage return, or both in this order.  `unified` makes each of
these a line feed and `lines` splits a text there; `split` does so at any character.
-/

namespace Changefeed.Text

/-- A text with line feeds as the ends of all lines. -/
def unified : List Char → List Char
  | [] => []
  | '\r' :: '\n' :: s => '\n' :: unified s
  | c :: s => (if c = '\r' then '\n' else c) :: unified s

/-- The parts of a text before, between and behind the characters that are `mark`; each of them may
be empty. -/
def split (mark : Char) : List Char → List (List Char)
  | [] => [[]]
  | c :: s =>
    if c = mark then [] :: split mark s
    else
      match split mark s with
      | [] => [[c]]
      | part :: rest => (c :: part) :: rest

/-- The lines of a text, without their ends. -/
def lines (s : List Char) : List (List Char) :=
  split '\n' (unified s)

/-- The lines of a text that is typed in: nothing behind the last end of a line is no line. -/
def typedLines (s : List Char) : List (List Char) :=
  let ls := lines s
  if ls.getLast? = some [] then ls.dropLast else ls

end Changefeed.Text
