import EventQuery.Text.CodeSet

/-!
# Scripts

A script has names, the characters that belong to it, and, where they differ from those, the
characters that are used with it.
-/

namespace EventQuery

/-- A script of the character database. -/
structure Script where
  /-- The four-letter code, the English name, and further aliases. -/
  names : List String
  /-- The characters that belong to the script. -/
  characters : CodeSet
  /-- The characters used with the script, if they are not the same. -/
  users : Option CodeSet

/-- The characters used with the script. -/
def Script.extension (s : Script) : CodeSet := s.users.getD s.characters

end EventQuery
