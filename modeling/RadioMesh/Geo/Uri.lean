import RadioMesh.Error
import RadioMesh.Floating.Writing
import RadioMesh.Geo.Precision
import RadioMesh.Store.NameMap
import RadioMesh.Text.Blank
import RadioMesh.Text.Percent

/-!
Locations as `geo:` URIs: two or three coordinates, parameters behind semicolons, and a query. Names and
values are percent-escaped, and a plus sign reads as a blank. Of equal parameters the last counts, of
equal query names the first; `u`, `crs`, `z` and `q` have fields of their own.
-/

namespace RadioMesh

structure GeoUri where
  latitude : Binary64
  longitude : Binary64
  altitude : Option Binary64 := none
  /-- In meters. -/
  uncertainty : Option Binary64 := none
  crs : Option String := none
  zoom : Option UInt32 := none
  query : Option String := none
  otherParams : NameMap String := ∅
  queryParams : NameMap String := ∅

namespace GeoUri

/-! ### In units of the mesh -/

/-- Degrees in units of 1e-7 degrees. -/
def fixedPoint (degrees : Binary64) : Int32 :=
  (degrees.timesNat 10000000).roundInt32

def latitudeFixed (g : GeoUri) : Int32 := fixedPoint g.latitude

def longitudeFixed (g : GeoUri) : Int32 := fixedPoint g.longitude

def precisionBits (g : GeoUri) : UInt32 := Geo.precisionBits g.uncertainty

/-- The binary64 number nearest to 1e-7. -/
def unit : Binary64 := ⟨0x3E7AD7F29ABCAF48⟩

/-- Units of 1e-7 degrees in degrees. -/
def degrees (units : Int32) : Binary64 :=
  unit.timesInt units

/-! ### Reading -/

/-- The characters before the first `mark` and, if there is one, those behind it. -/
def cut (mark : Char) (cs : List Char) : List Char × Option (List Char) :=
  let (before, rest) := cs.span (· ≠ mark)
  (before, rest.tail?)

/-- The stretches between marks, at least one. -/
def split (mark : Char) : List Char → List (List Char)
  | [] => [[]]
  | c :: cs =>
    if c = mark then [] :: split mark cs
    else
      match split mark cs with
      | [] => [[c]]
      | head :: rest => (c :: head) :: rest

def readNumber (which : GeoNumber) (text : String) : Except GeoFault Binary64 :=
  (Floating.read (Text.trim text)).mapError (.number which)

def unescape (cs : List Char) : Except GeoFault String :=
  (Text.Percent.decode (String.ofList (cs.map fun c => if c = '+' then ' ' else c))).mapError .text

/-- A name and the value behind its equals sign; without one the value is empty. -/
def readPair (cs : List Char) : Except GeoFault (String × String) := do
  let (name, value) := cut '=' cs
  let name ← unescape name
  let value ← unescape (value.getD [])
  return (name, value)

def addParam (g : GeoUri) (param : List Char) : Except GeoFault GeoUri := do
  let (name, value) ← readPair param
  if name = "u" then
    let u ← readNumber .uncertainty value
    return { g with uncertainty := some u }
  else if name = "crs" then return { g with crs := some value }
  else return { g with otherParams := g.otherParams.insert name value }

def addQuery (g : GeoUri) (pair : List Char) : Except GeoFault GeoUri := do
  let (name, value) ← readPair pair
  if name = "z" then
    let z ← (Text.Number.read value).mapError .zoom
    return { g with zoom := some z }
  else if name = "q" then return { g with query := some value }
  else return { g with queryParams := g.queryParams.insertIfNew name value }

def readCoordinates : List (List Char) → Except GeoFault GeoUri
  | [lat, lon] => do
    let lat ← readNumber .latitude (String.ofList lat)
    let lon ← readNumber .longitude (String.ofList lon)
    return { latitude := lat, longitude := lon }
  | [lat, lon, alt] => do
    let lat ← readNumber .latitude (String.ofList lat)
    let lon ← readNumber .longitude (String.ofList lon)
    let alt ← readNumber .altitude (String.ofList alt)
    return { latitude := lat, longitude := lon, altitude := some alt }
  | _ => .error .coordinateCount

/-- What follows the scheme. -/
def readRest (cs : List Char) : Except GeoFault GeoUri := do
  let (main, query) := cut '?' cs
  let parts := split ';' main
  let g ← readCoordinates (split ',' (parts.headD []))
  let g ← (parts.tail.filter (· ≠ [])).foldlM addParam g
  ((split '&' (query.getD [])).filter (· ≠ [])).foldlM addQuery g

def ofText (text : String) : Except IdentifierError GeoUri :=
  match text.toList with
  | 'g' :: 'e' :: 'o' :: ':' :: rest => (readRest rest).mapError .geo
  | _ => .error (.geo .scheme)

/-! ### Writing -/

def pair (name value : String) : String :=
  Text.Percent.encode name ++ "=" ++ Text.Percent.encode value

/-- The parameters, in the order of their texts. -/
def params (g : GeoUri) : List String :=
  let all := (g.uncertainty.toList.map fun u => "u=" ++ Floating.shortest u) ++
    (g.crs.toList.map fun crs => "crs=" ++ Text.Percent.encode crs) ++
    g.otherParams.toList.map fun (name, value) => pair name value
  all.mergeSort fun a b => decide (a ≤ b)

/-- The query's names and values, in the order of the names. -/
def queryMap (g : GeoUri) : NameMap String :=
  let own : NameMap String := ∅
  let own := match g.zoom with
    | some z => own.insert "z" (toString z.toNat)
    | none => own
  let own := match g.query with
    | some q => own.insert "q" q
    | none => own
  g.queryParams.toList.foldl (fun m (name, value) => m.insertIfNew name value) own

def text (g : GeoUri) : String :=
  let coordinates := "geo:" ++ Floating.fixed 5 g.latitude ++ "," ++ Floating.fixed 5 g.longitude ++
    String.join (g.altitude.toList.map fun a => "," ++ Floating.fixed 3 a)
  let params := String.join (g.params.map (";" ++ ·))
  let pairs := g.queryMap.toList.map fun (name, value) => pair name value
  let query := if pairs.isEmpty then "" else "?" ++ String.intercalate "&" pairs
  coordinates ++ params ++ query

end GeoUri

end RadioMesh
