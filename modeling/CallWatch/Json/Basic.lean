import CallWatch.Double.Basic

/-!
# JSON values

A `Json` is what a JSON text says, no more: the members of an object stand in the order of the
text, and a name may occur twice.  Numbers are exact integers as long as they fit 64 bits; any
other number has double precision.

`Json.canonical` sorts the members of every object by name and keeps the last of those that share
one.  `Json.depth` counts how deeply arrays and objects nest.
-/

namespace CallWatch

/-- A JSON value. -/
inductive Json where
  | null
  | bool (b : Bool)
  /-- An integer of the range from `-2 ^ 63` to `2 ^ 64 - 1`. -/
  | number (n : Int)
  /-- Any other number. -/
  | real (x : Double)
  | string (s : String)
  /-- A string, or an object with a name, that holds half of a surrogate pair, or a number beyond
  double precision.  Its text is in order, but it says nothing. -/
  | unreadable
  | array (items : List Json)
  | object (members : List (String × Json))
  deriving Inhabited

namespace Json

mutual

/-- How deeply arrays and objects nest. -/
def depth : Json → Nat
  | array items => 1 + depthItems items
  | object members => 1 + depthMembers members
  | _ => 0

/-- The greatest depth of the items. -/
def depthItems : List Json → Nat
  | [] => 0
  | v :: rest => max (depth v) (depthItems rest)

/-- The greatest depth of the members. -/
def depthMembers : List (String × Json) → Nat
  | [] => 0
  | (_, v) :: rest => max (depth v) (depthMembers rest)

end

mutual

/-- Whether every part of the value says something. -/
def isReadable : Json → Bool
  | unreadable => false
  | array items => areReadable items
  | object members => areReadableMembers members
  | _ => true

/-- Whether all items are readable. -/
def areReadable : List Json → Bool
  | [] => true
  | v :: rest => isReadable v && areReadable rest

/-- Whether all members are readable. -/
def areReadableMembers : List (String × Json) → Bool
  | [] => true
  | (_, v) :: rest => isReadable v && areReadableMembers rest

end

/-- Puts a member in its place among members sorted by name, in the place of one that has its
name. -/
def insertMember (name : String) (v : Json) : List (String × Json) → List (String × Json)
  | [] => [(name, v)]
  | (other, w) :: rest =>
    if name < other then (name, v) :: (other, w) :: rest
    else if name = other then (name, v) :: rest
    else (other, w) :: insertMember name v rest

mutual

/-- The value with the members of every object sorted by name, and only the last of those that
share a name. -/
def canonical : Json → Json
  | array items => array (canonicalItems items)
  | object members => object (canonicalMembers [] members)
  | v => v

/-- The canonical forms of the items. -/
def canonicalItems : List Json → List Json
  | [] => []
  | v :: rest => canonical v :: canonicalItems rest

/-- Puts the canonical forms of the members among those that are already sorted. -/
def canonicalMembers (sorted : List (String × Json)) : List (String × Json) → List (String × Json)
  | [] => sorted
  | (name, v) :: rest => canonicalMembers (insertMember name (canonical v) sorted) rest

end

/-- The member of an object with this name, the last if there are several. -/
def member? (name : String) : Json → Option Json
  | object members => members.reverse.lookup name
  | _ => none

end Json

end CallWatch
