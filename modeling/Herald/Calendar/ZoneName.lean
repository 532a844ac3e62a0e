import Herald.Calendar.Zone

/-! # Names of zones

Zones are kept in a tree of areas, so the name of a zone is a path: area by area, parted by slashes,
and then the place. Only a path in normal form is looked up. An area alone is no zone, and neither
is one of the tables that are kept beside the zones, nor the file that marks an area as one.
-/

namespace Herald

/-- What a name stands for. -/
inductive ZoneName
  | zone (zone : Zone)
  /-- A path in normal form under which nothing is kept. -/
  | unknown
  /-- No path in normal form, or the name of a file that is no zone. -/
  | malformed
  /-- A part of the tree that holds zones. -/
  | area
  /-- A place with more characters than the tree can hold. -/
  | overlong
  deriving DecidableEq

namespace ZoneName

/-- The areas. -/
def areas : List String :=
  ["Africa", "America", "America/Argentina", "America/Indiana", "America/Kentucky",
    "America/North_Dakota", "Antarctica", "Arctic", "Asia", "Atlantic", "Australia", "Brazil",
    "Canada", "Chile", "Etc", "Europe", "Indian", "Mexico", "Pacific", "US"]

/-- The tables beside the zones. -/
def tables : List String :=
  ["iso3166.tab", "leapseconds", "tzdata.zi", "zone.tab", "zone1970.tab", "zonenow.tab"]

/-- The file that marks an area, and the whole tree, as such. -/
def marker : String := "__init__.py"

/-- Where the readable form of a marker is kept, as if it were an area. -/
def markerArea : String := "__pycache__"

/-- Whether a path leads to something of a name in an area or at the root. -/
def leadsTo (last : String) (parts : List String) : Bool :=
  let area := parts.dropLast
  parts.getLast? == some last && (area.isEmpty || areas.contains ("/".intercalate area))

/-- The most bytes in the name of a place. -/
def longestPlace : Nat := 255

/-- Whether a part of a path leaves the path in normal form. -/
def isNormalPart (part : String) : Bool := part != "" && part != "." && part != ".."

/-- Whether a path of parts is in normal form. -/
def isNormal (parts : List String) : Bool :=
  parts.all fun part => isNormalPart part && !part.contains '\x00'

/-- Whether the last part of a path is too long for a place of its area. -/
def isOverlong (parts : List String) : Bool :=
  let area := parts.dropLast
  (parts.getLast?.any fun place => decide (longestPlace < place.utf8ByteSize)) &&
    (area.isEmpty || areas.contains ("/".intercalate area))

/-- What a name stands for. -/
def ofText (name : String) : ZoneName :=
  let parts := name.splitOn "/"
  match Zone.ofName? name with
  | some found => .zone found
  | none =>
    if !isNormal parts || tables.contains name || leadsTo marker parts then .malformed
    else if areas.contains name || leadsTo markerArea parts then .area
    else if isOverlong parts then .overlong
    else .unknown

end ZoneName

end Herald
