import ProfileQuery.Names

/-!
# Key spaces

Relations are connected when they have keys in common. The keys of the connected relations form a
key space; the key spaces of some relations are disjoint sets of keys, and adding a relation merges
the spaces that its keys lie in.
-/

namespace ProfileQuery.Plan

/-- Disjoint sets of keys, in the order of their smallest keys. -/
abbrev KeySpaces := List (List String)

/-- Whether some of the keys lie in a key space. -/
def touches (keys space : List String) : Bool :=
  keys.any (space.contains ·)

namespace KeySpaces

/-- Puts a key space in its place in the order of the smallest keys. -/
def place (space : List String) : KeySpaces → KeySpaces
  | [] => [space]
  | other :: spaces =>
    if space.headD "" < other.headD "" then space :: other :: spaces
    else other :: place space spaces

/-- Connects the given keys with each other: the spaces they lie in become one, together with the
keys that were in none. -/
def connect (spaces : KeySpaces) (keys : List String) : KeySpaces :=
  if keys.isEmpty then spaces
  else
    let merged := (spaces.filter (touches keys)).foldr Names.union (Names.ofList keys)
    place merged (spaces.filter fun space => !touches keys space)

/-- The key spaces of lists of connected keys. -/
def ofCliques (cliques : List (List String)) : KeySpaces :=
  cliques.foldl connect []

/-- Whether keys lie in more than one key space. -/
def bridgedBy (spaces : KeySpaces) (keys : List String) : Bool :=
  1 < spaces.countP (touches keys)

end KeySpaces

end ProfileQuery.Plan
