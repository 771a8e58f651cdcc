/-!
# Searching a text

Positions are counted in code points, so that a position found here is also a position at which a
character can be read.
-/

namespace AccessRules.Text

/-- Whether the text begins with the sought characters. -/
def startsWith (sought text : List Char) : Bool :=
  sought.isPrefixOf text

/-- Whether the text ends with the sought characters. -/
def endsWith (sought text : List Char) : Bool :=
  sought.reverse.isPrefixOf text.reverse

/-- The first position at which the sought characters stand. -/
def indexOf (sought : List Char) : List Char → Option Nat
  | [] => if sought.isEmpty then some 0 else none
  | first :: rest =>
      if startsWith sought (first :: rest) then some 0
      else (indexOf sought rest).map (· + 1)

/-- Whether the sought characters stand anywhere in the text. -/
def includes (sought text : List Char) : Bool :=
  match text with
  | [] => sought.isEmpty
  | first :: rest => startsWith sought (first :: rest) || includes sought rest

end AccessRules.Text
