import ReverseProxy.Http.Date
import ReverseProxy.Http.Message

set_option autoImplicit false

namespace ReverseProxy.Cache
open Http.Date (Instant)

/-- Chunks at least this long are kept as they were received, shorter ones are copied. -/
def directThreshold : Nat := 16384

def isDirect (chunk : Bytes) : Bool := directThreshold ≤ chunk.length

def originHeader : String := "x-cache-origin"

def isVolatile (name : String) : Bool :=
  ["etag", "accept-ranges", "expires", "content-length"].contains name || Http.isHopByHop name

def storableHeaders (h : Http.Headers) : Http.Headers := h.removeIf isVolatile

structure Entry where
  status : Http.Status
  headers : Http.Headers
  chunks : List Bytes
  heapBytes : Nat
  directBytes : Nat
  lastModified : Instant
  created : Instant
  expires : Instant
  expiresHeader : Bytes
  lastAccessMs : Nat
deriving DecidableEq, Repr, Inhabited

namespace Entry

def body (e : Entry) : Bytes := e.chunks.flatten

def bodyLength (e : Entry) : Nat := e.chunks.flatten.length

def footprint (e : Entry) : Nat := e.heapBytes + e.directBytes

def isExpired (e : Entry) (now : Instant) : Bool := e.expires ≤ now

def notModifiedSince (e : Entry) (since : Instant) : Bool :=
  Http.Date.wholeSeconds e.lastModified ≤ Http.Date.wholeSeconds since

/-- The mark of a response from the cache; none if the time of storing is outside the calendar. -/
def origin? (e : Entry) : Option Bytes :=
  (Http.Date.format? e.created).map fun d => Bytes.ofText ("hit; created=" ++ d)

def fullResponse? (e : Entry) : Option Http.Response := do
  let origin ← e.origin?
  some {
    status := e.status
    headers := ((e.headers.insert "expires" e.expiresHeader).insert "content-length"
      (Bytes.ofText (Text.ofNat e.bodyLength))).insert originHeader origin
    body := e.body }

def notModifiedResponse? (e : Entry) : Option Http.Response := do
  let modified ← Http.Date.format? e.lastModified
  let origin ← e.origin?
  some {
    status := 304
    headers := ((Http.Headers.empty.insert "last-modified" (Bytes.ofText modified)).insert
      "expires" e.expiresHeader).insert originHeader origin
    body := [] }

/-- The answer to a hit. It fails only for dates outside the calendar. -/
def response? (e : Entry) (ifModifiedSince : Option Instant) : Option Http.Response :=
  if ifModifiedSince.any e.notModifiedSince then e.notModifiedResponse? else e.fullResponse?

end Entry

theorem getAll_storableHeaders (h : Http.Headers) (name : String) :
    (storableHeaders h).getAll name = if isVolatile name then [] else h.getAll name :=
  Http.Headers.getAll_removeIf h isVolatile name

end ReverseProxy.Cache
