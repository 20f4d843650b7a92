import MediaCatalog.CommandLine.Page

/-!
# Usage and help

What the pages of the command line say about themselves: a usage, which also stands in front of
every complaint, and a help text, which begins with the usage. Both end in a line feed.
-/

namespace MediaCatalog.CommandLine

/-- Lines as a text, each ended by a line feed. -/
def unlines (lines : List String) : Text := lines.flatMap fun line => line.toList ++ ['\n']

/-- The version as it is reported. -/
def versionLine : Text := programName ++ [' '] ++ version ++ ['\n']

namespace Page

/-- The usage of a page. -/
def usage : Page → Text
  | program => unlines
    ["usage: media-formats [-h] [-V] [-v]",
     "                     \x7bmatch,compatible,types,cover-supplier\x7d ..."]
  | command .matching => unlines
    ["usage: media-formats match [-h] -f FORMAT_NAME [-s GROUP] filename"]
  | command .compatible => unlines
    ["usage: media-formats compatible [-h] -f FORMAT_NAME filename"]
  | command .types => unlines ["usage: media-formats types [-h]"]
  | command .coverSupplier => unlines ["usage: media-formats cover-supplier [-h] value"]

/-- What the help of a page says after its usage. -/
def details : Page → Text
  | program => unlines
    ["",
     "Classify media filenames by known format.",
     "",
     "positional arguments:",
     "  \x7bmatch,compatible,types,cover-supplier\x7d",
     "    match               Match a filename against one format.",
     "    compatible          Ask the default renderer about native playback.",
     "    types               List media type flags.",
     "    cover-supplier      Parse a cover supplier setting.",
     "",
     "options:",
     "  -h, --help            show this help message and exit",
     "  -V, --version         show program's version number and exit",
     "  -v, --verbose         Enable debug logging (overrides",
     "                        MEDIA_FORMATS_LOG_LEVEL)."]
  | command .matching => unlines
    ["",
     "positional arguments:",
     "  filename              Filename or URI to match.",
     "",
     "options:",
     "  -h, --help            show this help message and exit",
     "  -f FORMAT_NAME, --format FORMAT_NAME",
     "                        Format identifier, e.g. MP3 or MKV.",
     "  -s GROUP, --skip GROUP",
     "                        Comma-separated extensions to skip; '*' skips",
     "                        everything."]
  | command .compatible => unlines
    ["",
     "positional arguments:",
     "  filename              Resource to check.",
     "",
     "options:",
     "  -h, --help            show this help message and exit",
     "  -f FORMAT_NAME, --format FORMAT_NAME",
     "                        Format identifier, e.g. MP3 or MKV."]
  | command .types => unlines
    ["",
     "options:",
     "  -h, --help  show this help message and exit"]
  | command .coverSupplier => unlines
    ["",
     "positional arguments:",
     "  value       Setting value, e.g. 'coverartarchive'.",
     "",
     "options:",
     "  -h, --help  show this help message and exit"]

/-- The help of a page. -/
def help (p : Page) : Text := p.usage ++ p.details

end Page

end MediaCatalog.CommandLine
