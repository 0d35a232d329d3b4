import LoadProbe.Text.Layout

/-!
# Joining URLs

The service names a job by a status URL, which may be absolute or a path below the base URL.
-/

namespace LoadProbe.Url

/-- Whether the text starts like an absolute URL of the web. -/
def isAbsolute (url : String) : Bool :=
  "http://".toList.isPrefixOf url.toList || "https://".toList.isPrefixOf url.toList

/-- A base URL without the slashes at its end. -/
def trimBase (base : String) : String := String.ofList (Text.dropEnd (· = '/') base.toList)

/-- A path without the slashes at its beginning. -/
def trimPath (path : String) : String := String.ofList (path.toList.dropWhile (· = '/'))

/-- The status URL below the base, with one slash between them; an absolute one is left alone. -/
def join (base url : String) : String :=
  if isAbsolute url then url else trimBase base ++ "/" ++ trimPath url

/-- Where jobs are submitted. -/
def chatUrl (base : String) : String := base ++ "/chat"

end LoadProbe.Url
