import DesignGraph.Text.WordChar
/-!
# Video addresses

The id of a video in an address of a video platform: what follows the last marker on the first
line of the address, up to the next separator, if it has the length of an id.

## Main definitions

* `DesignGraph.Video.id?` — the id in an address.
* `DesignGraph.Video.playerAddress` — the address of a video's player.
-/

namespace DesignGraph.Video

/-- The markers that an id can follow. -/
def markers : List (List Char) :=
  ["youtu.be/".toList, "v/".toList, "embed/".toList, "watch?v=".toList, "&v=".toList]

/-- What follows a marker at the start of a text. The path of a user, with a name of one letter,
is a marker too. -/
def afterMarker? (cs : List Char) : Option (List Char) :=
  match cs with
  | 'u' :: '/' :: c :: '/' :: rest => if isWordChar c then some rest else none
  | cs => (markers.find? (·.isPrefixOf cs)).map fun marker => cs.drop marker.length

/-- What follows the last marker on the first line. -/
def afterLastMarker? : List Char → Option (List Char)
  | [] => none
  | c :: rest =>
    if c = '\n' then none else (afterLastMarker? rest).or (afterMarker? (c :: rest))

/-- Whether a character ends an id. -/
def isSeparator (c : Char) : Bool :=
  c == '#' || c == '&' || c == '?'

/-- The number of characters of an id. -/
def idLength : Nat := 11

/-- The id of the video in an address. -/
def id? (url : String) : Option String :=
  match afterLastMarker? url.toList with
  | none => none
  | some rest =>
    let id := rest.takeWhile fun c => !isSeparator c
    if id.length = idLength then some (String.ofList id) else none

/-- How a video is played. -/
structure Playback where
  autoplay : Bool
  controls : Bool
  loop : Bool
  muted : Bool
  deriving DecidableEq, Repr

/-- A choice in the query of an address. -/
def flag (b : Bool) : String :=
  if b then "1" else "0"

/-- The address of the player of a video. A video that loops is its own playlist. -/
def playerAddress (id : String) (playback : Playback) : String :=
  "https://www.youtube.com/embed/" ++ id ++ "?autoplay=" ++ flag playback.autoplay ++
    "&controls=" ++ flag playback.controls ++ "&loop=" ++ flag playback.loop ++
    "&playlist=" ++ (if playback.loop then id else "") ++ "&mute=" ++ flag playback.muted

end DesignGraph.Video
