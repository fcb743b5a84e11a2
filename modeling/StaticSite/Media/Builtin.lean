/-
  BUILT-IN TABLES: the extensions that every site knows.

  Both are dictionaries: their extensions ascend, are in lower case and begin with a dot.
-/
import StaticSite.Dict

namespace StaticSite.Media

/-- The media types of the well-known extensions. -/
def builtinTypes : Dict String :=
  [(".avi", "video/x-msvideo"), (".conf", "text/plain"), (".css", "text/css"),
   (".csv", "text/csv"), (".diff", "text/plain"), (".exe", "application/x-executable"),
   (".flac", "audio/x-flac"), (".gif", "image/gif"), (".htm", "text/html"),
   (".html", "text/html"), (".ico", "image/vnd.microsoft.icon"), (".java", "text/plain"),
   (".jpeg", "image/jpeg"), (".jpg", "image/jpeg"), (".js", "application/javascript"),
   (".json", "application/json"), (".m4a", "audio/mp4"), (".md", "text/markdown"),
   (".mjs", "application/javascript"), (".mov", "video/quicktime"), (".mp3", "audio/mpeg"),
   (".mp4", "video/mp4"), (".ogg", "application/ogg"), (".ogv", "video/ogg"),
   (".otf", "font/otf"), (".oz", "text/x-oz"), (".patch", "text/plain"),
   (".pdf", "application/pdf"), (".png", "image/png"), (".py", "text/plain"),
   (".rs", "text/plain"), (".svg", "image/svg+xml"), (".swf", "application/x-shockwave-flash"),
   (".tar", "application/x-tar"), (".text", "text/plain"), (".tgz", "application/x-gtar"),
   (".ttf", "font/ttf"), (".txt", "text/plain"), (".wasm", "application/wasm"),
   (".wav", "audio/x-wav"), (".webm", "video/webm"), (".webp", "image/webp"),
   (".wml", "text/vnd.wap.wml"), (".woff", "font/woff"), (".woff2", "font/woff2"),
   (".xml", "text/xml"), (".xul", "application/vnd.mozilla.xul+xml"), (".zip", "application/zip")]

/-- The content encodings of the compression suffixes. -/
def builtinEncodings : Dict String := [(".bz2", "bzip2"), (".gz", "gzip")]

end StaticSite.Media
