import MediaCatalog.Text.Basic

/-!
# Format identifiers

The closed list of the formats that can be named. An identifier says *which* format; the coarse
category that a format belongs to is a different matter. Two orders matter: the order of
declaration, in which identifiers are listed, and the order of names, in which a set of them is
written.
-/

namespace MediaCatalog

/-- The identifier of a format. -/
inductive FormatId
  | aacp
  | ac3
  | adpcm
  | adts
  | aiff
  | ape
  | atrac
  | au
  | audioAsVideo
  | ass
  | bmp
  | dff
  | dsf
  | dts
  | dvrms
  | eac3
  | flac
  | gif
  | rgbe
  | icns
  | ico
  | iff
  | idx
  | iso
  | isovob
  | jpg
  | m4a
  | microdvd
  | mka
  | mkv
  | mlp
  | mp3
  | mpa
  | mpc
  | mpg
  | oga
  | ogg
  | pcx
  | pict
  | png
  | pnm
  | psd
  | ra
  | raw
  | sami
  | sgi
  | shn
  | subrip
  | sup
  | tga
  | thd
  | threega
  | threeg2a
  | tiff
  | tta
  | txt
  | wav
  | wbmp
  | web
  | webp
  | webvtt
  | wma
  | wv
  | custom
  | playlist
deriving DecidableEq, Repr

namespace FormatId

/-- The name of an identifier. -/
def name : FormatId → Text
  | aacp => "AACP".toList
  | ac3 => "AC3".toList
  | adpcm => "ADPCM".toList
  | adts => "ADTS".toList
  | aiff => "AIFF".toList
  | ape => "APE".toList
  | atrac => "ATRAC".toList
  | au => "AU".toList
  | audioAsVideo => "AUDIO_AS_VIDEO".toList
  | ass => "ASS".toList
  | bmp => "BMP".toList
  | dff => "DFF".toList
  | dsf => "DSF".toList
  | dts => "DTS".toList
  | dvrms => "DVRMS".toList
  | eac3 => "EAC3".toList
  | flac => "FLAC".toList
  | gif => "GIF".toList
  | rgbe => "RGBE".toList
  | icns => "ICNS".toList
  | ico => "ICO".toList
  | iff => "IFF".toList
  | idx => "IDX".toList
  | iso => "ISO".toList
  | isovob => "ISOVOB".toList
  | jpg => "JPG".toList
  | m4a => "M4A".toList
  | microdvd => "MICRODVD".toList
  | mka => "MKA".toList
  | mkv => "MKV".toList
  | mlp => "MLP".toList
  | mp3 => "MP3".toList
  | mpa => "MPA".toList
  | mpc => "MPC".toList
  | mpg => "MPG".toList
  | oga => "OGA".toList
  | ogg => "OGG".toList
  | pcx => "PCX".toList
  | pict => "PICT".toList
  | png => "PNG".toList
  | pnm => "PNM".toList
  | psd => "PSD".toList
  | ra => "RA".toList
  | raw => "RAW".toList
  | sami => "SAMI".toList
  | sgi => "SGI".toList
  | shn => "SHN".toList
  | subrip => "SUBRIP".toList
  | sup => "SUP".toList
  | tga => "TGA".toList
  | thd => "THD".toList
  | threega => "THREEGA".toList
  | threeg2a => "THREEG2A".toList
  | tiff => "TIFF".toList
  | tta => "TTA".toList
  | txt => "TXT".toList
  | wav => "WAV".toList
  | wbmp => "WBMP".toList
  | web => "WEB".toList
  | webp => "WEBP".toList
  | webvtt => "WEBVTT".toList
  | wma => "WMA".toList
  | wv => "WV".toList
  | custom => "CUSTOM".toList
  | playlist => "PLAYLIST".toList

/-- The identifiers, in order of declaration. -/
def all : List FormatId :=
  [aacp, ac3, adpcm, adts, aiff, ape, atrac, au, audioAsVideo, ass, bmp, dff, dsf, dts, dvrms,
   eac3, flac, gif, rgbe, icns, ico, iff, idx, iso, isovob, jpg, m4a, microdvd, mka, mkv, mlp,
   mp3, mpa, mpc, mpg, oga, ogg, pcx, pict, png, pnm, psd, ra, raw, sami, sgi, shn, subrip,
   sup, tga, thd, threega, threeg2a, tiff, tta, txt, wav, wbmp, web, webp, webvtt, wma, wv,
   custom, playlist]

/-- The identifiers, in order of their names. -/
def byName : List FormatId :=
  [aacp, ac3, adpcm, adts, aiff, ape, ass, atrac, au, audioAsVideo, bmp, custom, dff, dsf, dts,
   dvrms, eac3, flac, gif, icns, ico, idx, iff, iso, isovob, jpg, m4a, microdvd, mka, mkv, mlp,
   mp3, mpa, mpc, mpg, oga, ogg, pcx, pict, playlist, png, pnm, psd, ra, raw, rgbe, sami, sgi,
   shn, subrip, sup, tga, thd, threeg2a, threega, tiff, tta, txt, wav, wbmp, web, webp, webvtt,
   wma, wv]

/-- The identifier of a name, which has to be spelled as declared. -/
def ofName? (name : Text) : Option FormatId := all.find? fun i => i.name == name

/-- An identifier as it is written inside a set. -/
def written (i : FormatId) : Text :=
  "<FormatIdentifier.".toList ++ i.name ++ ": '".toList ++ i.name ++ "'>".toList

end FormatId

end MediaCatalog
