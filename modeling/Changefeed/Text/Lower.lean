/-!
# Lower case

Lower case as far as names need it: the letters that have an ASCII letter as their lower case.
-/

namespace Changefeed.Text

/-- The lower case of a character, if that is ASCII; the sign for kelvin is a letter K. -/
def lowerChar (c : Char) : Char :=
  if c = '\u212A' then 'k' else c.toLower

/-- A name in lower case. -/
def lowered (s : String) : String :=
  String.ofList (s.toList.map lowerChar)

end Changefeed.Text
