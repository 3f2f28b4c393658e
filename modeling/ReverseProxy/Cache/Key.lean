import ReverseProxy.Http.Header
import ReverseProxy.Http.Uri

set_option autoImplicit false

namespace ReverseProxy.Cache

structure Key where
  method : String
  secure : Bool
  authority : String
  pathAndQuery : String
  acceptEncoding : String
deriving DecidableEq, Repr, Inhabited

namespace Key

/-- The items between commas, trimmed and in lower case; blank ones are dropped. -/
def normalizeList (value : String) : String :=
  Text.join "," (((Text.splitOn ',' value).map fun i => Text.lower (Text.trim i)).filter (· ≠ ""))

def new (method : String) (secure : Bool) (authority pathAndQuery : String) : Key where
  method
  secure
  authority := Text.lower (Text.trim authority)
  pathAndQuery := if pathAndQuery = "" then "/" else pathAndQuery
  acceptEncoding := ""

def withAcceptEncoding (k : Key) (value : String) : Key :=
  { k with acceptEncoding := normalizeList value }

/-- The `Host` header, or the authority of the target. -/
def authorityOf (uri : Http.Uri) (headers : Http.Headers) : String :=
  ((headers.text? "host").or uri.authority).getD ""

def ofRequest (method : String) (uri : Http.Uri) (headers : Http.Headers) (secure : Bool) : Key :=
  (new method secure (authorityOf uri headers) (uri.pathAndQuery?.getD "/")).withAcceptEncoding
    (Text.join "," ((headers.getAll "accept-encoding").filterMap Bytes.text?))

def text (k : Key) : String :=
  let scheme := if k.secure then "https" else "http"
  let encodings := if k.acceptEncoding = "" then "" else " [" ++ k.acceptEncoding ++ "]"
  k.method ++ " " ++ scheme ++ "://" ++ k.authority ++ k.pathAndQuery ++ encodings

end Key
end ReverseProxy.Cache
