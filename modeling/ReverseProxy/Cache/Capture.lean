import ReverseProxy.Cache.Directives
import ReverseProxy.Cache.Entry
import ReverseProxy.Cache.Key

set_option autoImplicit false

/-!
# Captures

A capture records a response while it streams to the client. It waits for the head, records the
body, and gives up for good on the first thing that forbids storing; the client never notices.
-/
namespace ReverseProxy.Cache
open Http.Date (Instant)

inductive Rejection where
  | status
  | directives
  | declaredTooLarge
  | badExpires
  | bodyTooLarge
  | vary
deriving DecidableEq, Repr, Inhabited

def Rejection.name : Rejection → String
  | .status => "Status"
  | .directives => "Directives"
  | .declaredTooLarge => "DeclaredTooLarge"
  | .badExpires => "BadExpires"
  | .bodyTooLarge => "BodyTooLarge"
  | .vary => "Vary"

structure CapturedHead where
  status : Http.Status
  headers : Http.Headers
  expires : Instant
  expiresHeader : Bytes
  synthesized : Bool
  lastModified : Option Instant
deriving DecidableEq, Repr, Inhabited

structure CapturedBody where
  chunks : List Bytes := []
  heapBytes : Nat := 0
  directBytes : Nat := 0
deriving DecidableEq, Repr, Inhabited

def CapturedBody.push (b : CapturedBody) (chunk : Bytes) : CapturedBody where
  chunks := b.chunks ++ [chunk]
  heapBytes := if isDirect chunk then b.heapBytes else b.heapBytes + chunk.length
  directBytes := if isDirect chunk then b.directBytes + chunk.length else b.directBytes

inductive CaptureState where
  | awaitingHead
  | recording (head : CapturedHead) (body : CapturedBody)
  | rejected (why : Rejection)
deriving DecidableEq, Repr, Inhabited

structure Capture where
  key : Key
  maxFileSize : Nat
  defaultTtlMs : Nat
  started : Instant
  state : CaptureState := .awaitingHead
deriving DecidableEq, Repr, Inhabited

/-- Whether every dimension of `Vary` is part of the key; an unreadable value is none. -/
def varyIsKeyed (h : Http.Headers) : Bool :=
  (h.getAll "vary").all fun v =>
    match Bytes.text? v with
    | some s =>
      ((Text.splitOn ',' s).map Text.trim).all fun name =>
        name == "" || Text.equalsIgnoringCase name "accept-encoding"
    | none => false

def declaredLength? (h : Http.Headers) : Option Nat :=
  (h.text? "content-length").bind fun s => Text.unsigned? (1 <<< 64) (Text.trim s)

namespace Capture

def isActive (c : Capture) : Bool :=
  match c.state with
  | .rejected _ => false
  | _ => true

def rejection? (c : Capture) : Option Rejection :=
  match c.state with
  | .rejected why => some why
  | _ => none

def reject (c : Capture) (why : Rejection) : Capture := { c with state := .rejected why }

def headRejection? (c : Capture) (status : Http.Status) (h : Http.Headers) : Option Rejection :=
  if !Http.Status.isSuccess status || status == 206 then some .status
  else if (Directives.ofHeaders h).forbidsStorage then some .directives
  else if !varyIsKeyed h then some .vary
  else if (declaredLength? h).any (c.maxFileSize < ·) then some .declaredTooLarge
  else none

inductive Expiry where
  | at (time : Instant) (header : Bytes) (synthesized : Bool)
  | bad
  | outOfCalendar
deriving DecidableEq, Repr

/-- The response's own expiry, which has to be in the future, or the default one. -/
def expiry (c : Capture) (h : Http.Headers) : Expiry :=
  match h.get? "expires" with
  | some value =>
    match (Bytes.text? value).bind Http.Date.parse? with
    | some t => if c.started < t then .at t value false else .bad
    | none => .bad
  | none =>
    let t := c.started + c.defaultTtlMs
    match Http.Date.format? t with
    | some s => .at t (Bytes.ofText s) true
    | none => .outOfCalendar

def lastModified? (h : Http.Headers) : Option Instant :=
  (h.text? "last-modified").bind Http.Date.parse?

/-- Takes the head of the response. Heads after the first are ignored; there is no result if the
default expiry lies outside the calendar. -/
def onHead? (c : Capture) (status : Http.Status) (h : Http.Headers) : Option Capture :=
  match c.state with
  | .awaitingHead =>
    match c.headRejection? status h with
    | some why => some (c.reject why)
    | none =>
      match c.expiry h with
      | .at expires expiresHeader synthesized =>
        let head : CapturedHead := ⟨status, storableHeaders h, expires, expiresHeader, synthesized,
          lastModified? h⟩
        some { c with state := .recording head {} }
      | .bad => some (c.reject .badExpires)
      | .outOfCalendar => none
  | _ => some c

def acceptsHead (before after : Capture) : Bool :=
  before.state == .awaitingHead && after.isActive

def synthesizedExpires? (c : Capture) : Option Bytes :=
  match c.state with
  | .recording head _ => if head.synthesized then some head.expiresHeader else none
  | _ => none

def onChunk (c : Capture) (chunk : Bytes) : Capture :=
  match c.state with
  | .recording head body =>
    if chunk.isEmpty then c
    else if c.maxFileSize < body.heapBytes + body.directBytes + chunk.length then
      c.reject .bodyTooLarge
    else { c with state := .recording head (body.push chunk) }
  | _ => c

def isRecording (c : Capture) : Bool :=
  match c.state with
  | .recording _ _ => true
  | _ => false

def finished? (c : Capture) (now : Instant) : Option Entry :=
  match c.state with
  | .recording head body => some {
      status := head.status
      headers := head.headers
      chunks := body.chunks
      heapBytes := body.heapBytes
      directBytes := body.directBytes
      lastModified := head.lastModified.getD now
      created := now
      expires := head.expires
      expiresHeader := head.expiresHeader
      lastAccessMs := Http.Date.unixMillis now }
  | _ => none

end Capture
end ReverseProxy.Cache
