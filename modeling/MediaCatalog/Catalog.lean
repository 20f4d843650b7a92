import MediaCatalog.Category
import MediaCatalog.Error
import MediaCatalog.Format
import MediaCatalog.Text.Blank

/-!
# The catalogue

The declared formats, at least one for each media category that has files, and the two steps from a
name to a format: reading the identifier, which minds neither case nor surrounding white space, and
looking up the format declared for it.
-/

namespace MediaCatalog.Catalog

/-! ### Audio -/

/-- The icon of the audio formats. -/
def audioIcon : Text := "images/formats/audio.png".toList

/-- MPEG layer 3 audio. -/
def mp3 : Format where
  name := "MP3".toList
  id := .mp3
  extensions := ["mp3".toList]
  icon := some audioIcon
  category := Category.audio.weight
  transcodable := true

/-- MPEG layer 2 audio. -/
def mpa : Format where
  name := "MPA".toList
  id := .mpa
  extensions := ["mpa".toList, "mp2".toList]
  icon := some audioIcon
  category := Category.audio.weight
  transcodable := true

/-- Free lossless audio. -/
def flac : Format where
  name := "FLAC".toList
  id := .flac
  extensions := ["flac".toList]
  icon := some audioIcon
  category := Category.audio.weight
  transcodable := true

/-! ### Video -/

/-- The icon of the video formats. -/
def videoIcon : Text := "images/formats/video.png".toList

/-- Matroska video. -/
def mkv : Format where
  name := "MKV".toList
  id := .mkv
  extensions := ["mkv".toList, "mk3d".toList]
  icon := some videoIcon
  category := Category.video.weight
  transcodable := true

/-- MPEG video and its containers. -/
def mpg : Format where
  name := "MPG".toList
  id := .mpg
  extensions := ["mpg".toList, "mpeg".toList, "mp4".toList, "m4v".toList, "ts".toList,
    "m2ts".toList, "vob".toList]
  icon := some videoIcon
  category := Category.video.weight
  transcodable := true

/-- The schemes of network streams. -/
def streamSchemes : List Text :=
  ["http".toList, "https".toList, "mms".toList, "rtsp".toList, "rtp".toList, "udp".toList,
    "ftp".toList]

/-- A network stream, recognised by its scheme. -/
def web : Format where
  name := "Web".toList
  id := .web
  icon := some "images/formats/web.png".toList
  category := Category.video.weight
  transcodable := true
  rule := .scheme streamSchemes

/-! ### Images -/

/-- JPEG images. -/
def jpg : Format where
  name := "JPG".toList
  id := .jpg
  extensions := ["jpg".toList, "jpeg".toList, "jpe".toList, "jif".toList, "jfif".toList]
  icon := some "images/formats/image.png".toList
  category := Category.image.weight
  transcodable := true

/-! ### Subtitles -/

/-- SubRip subtitles. -/
def subRip : Format where
  name := "SubRip".toList
  id := .subrip
  extensions := ["srt".toList]
  category := Category.subtitle.weight

/-- Web video text tracks. -/
def webVtt : Format where
  name := "WebVtt".toList
  id := .webvtt
  extensions := ["vtt".toList]
  category := Category.subtitle.weight

/-! ### Containers -/

/-- Playlists. -/
def playlist : Format where
  name := "Playlist".toList
  id := .playlist
  extensions := ["m3u".toList, "m3u8".toList, "pls".toList, "cue".toList, "ups".toList]
  category := Category.playlist.weight

/-- Disc images. -/
def iso : Format where
  name := "ISO".toList
  id := .iso
  extensions := ["iso".toList, "img".toList]
  icon := some "images/formats/iso.png".toList
  category := Category.iso.weight
  transcodable := true

/-! ### Looking up -/

/-- The declared formats. -/
def formats : List Format :=
  [mp3, mpa, flac, mkv, mpg, web, jpg, subRip, webVtt, playlist, iso]

/-- The identifier that a text names, whatever the case and the white space around it. -/
def readId (name : Text) : Except Error FormatId :=
  match FormatId.ofName? (Text.upper (Text.trim name)) with
  | some id => .ok id
  | none => .error (.unknownName name)

/-- The format declared for an identifier. -/
def format (id : FormatId) : Except Error Format :=
  match formats.find? fun f => f.id == id with
  | some f => .ok f
  | none => .error (.undeclared id)

/-- The format that a text names. -/
def lookup (name : Text) : Except Error Format := do
  let id ← readId name
  format id

/-- What each format that recognises a resource recognises it by, in the order of the catalogue. -/
def classify (name : Option Text) : List (FormatId × Text) :=
  formats.filterMap fun f => (f.find name).map (f.id, ·)

end MediaCatalog.Catalog
