import ReverseProxy.Cache.Capture
import ReverseProxy.Config.Schema
import ReverseProxy.Metrics

set_option autoImplicit false

/-!
# The store

Entries by key, with counters that follow them. Every operation is built from three steps that
each happen at once: finding an entry, removing that very entry, and putting one in. An entry is
told apart from later ones under its key by its serial number.
-/
namespace ReverseProxy.Cache
open Http.Date (Instant)

structure Policy where
  enabled : Bool
  maxSize : Nat
  maxFileSize : Nat
  disableSecureWithoutPublic : Bool
  defaultTtlMs : Nat
  sweepIntervalMs : Nat
deriving DecidableEq, Repr, Inhabited

def Policy.ofConfig (c : Config.Cache) : Policy where
  enabled := c.enabled
  maxSize := c.maxSizeBytes.toNat
  maxFileSize := c.maxFileSizeBytes.toNat
  disableSecureWithoutPublic := c.disableSecureWithoutPublic
  defaultTtlMs := c.defaultTtlSecs.toNat * 1000
  sweepIntervalMs := c.sweepIntervalSecs.toNat * 1000

structure Live where
  key : Key
  serial : Nat
  entry : Entry
deriving DecidableEq, Repr, Inhabited

structure Stats where
  hits : Nat := 0
  misses : Nat := 0
  evictions : Nat := 0
  entries : Nat := 0
  heapBytes : Nat := 0
  directBytes : Nat := 0
deriving DecidableEq, Repr, Inhabited

namespace Stats

def charge (s : Stats) (e : Entry) : Stats :=
  { s with
    entries := s.entries + 1
    heapBytes := s.heapBytes + e.heapBytes
    directBytes := s.directBytes + e.directBytes }

def release (s : Stats) (e : Entry) : Stats :=
  { s with
    entries := s.entries - 1
    heapBytes := s.heapBytes - e.heapBytes
    directBytes := s.directBytes - e.directBytes }

def totalBytes (s : Stats) : Nat := s.heapBytes + s.directBytes

end Stats

structure Store where
  policy : Policy
  live : List Live := []
  stats : Stats := {}
  nextSerial : Nat := 0
  pressure : Bool := false
  /-- Copied and directly kept bytes as last shown in the gauges. -/
  published : Option (Nat × Nat) := none
deriving DecidableEq, Repr, Inhabited

namespace Store

def find? (s : Store) (key : Key) : Option Live := s.live.find? (·.key == key)

def publish (s : Store) : Store :=
  { s with published := some (s.stats.heapBytes, s.stats.directBytes) }

def isEntry (key : Key) (serial : Nat) (l : Live) : Bool := l.key == key && l.serial == serial

def removeExact (s : Store) (key : Key) (serial : Nat) : Bool × Store :=
  match s.live.find? (isEntry key serial) with
  | some l => (true, { s with
      live := s.live.filter fun l => !isEntry key serial l
      stats := s.stats.release l.entry })
  | none => (false, s)

def insert (s : Store) (key : Key) (e : Entry) : Store :=
  let charged := s.stats.charge e
  let stats := match s.find? key with
    | some old => charged.release old.entry
    | none => charged
  { s with
    live := s.live.filter (·.key != key) ++ [⟨key, s.nextSerial, e⟩]
    stats
    nextSerial := s.nextSerial + 1 }

def touch (s : Store) (key : Key) (serial : Nat) (now : Instant) : Store :=
  { s with live := s.live.map fun l =>
      if isEntry key serial l then
        { l with entry := { l.entry with lastAccessMs := Http.Date.unixMillis now } }
      else l }

def countHit (s : Store) : Store := { s with stats := { s.stats with hits := s.stats.hits + 1 } }

def countMiss (s : Store) : Store :=
  { s with stats := { s.stats with misses := s.stats.misses + 1 } }

def lookup (s : Store) (key : Key) (now : Instant) : Option Entry × Store :=
  match s.find? key with
  | none => (none, s.countMiss)
  | some l =>
    if l.entry.isExpired now then
      let (removed, s) := s.removeExact key l.serial
      (none, (if removed then s.publish else s).countMiss)
    else
      (some { l.entry with lastAccessMs := Http.Date.unixMillis now },
        (s.touch key l.serial now).countHit)

/-- Starts a capture if the request is a candidate: a GET, and over TLS only one that declares
its response public where the policy asks for that. -/
def beginCapture (s : Store) (key : Key) (request : Http.Headers) (now : Instant) :
    Option Capture :=
  let p := s.policy
  if !p.enabled || key.method != "GET" then none
  else if key.secure && p.disableSecureWithoutPublic &&
      !(Directives.ofHeaders request).isPublic then none
  else some { key, maxFileSize := p.maxFileSize, defaultTtlMs := p.defaultTtlMs, started := now }

def overBudget (s : Store) : Bool := s.policy.maxSize < s.stats.totalBytes

/-- Stores a capture that recorded a response to its end, and asks for maintenance if the store is
over its budget then. -/
def commit (s : Store) (c : Capture) (now : Instant) : Bool × Store :=
  match c.finished? now with
  | none => (false, s)
  | some e =>
    let s := (s.insert c.key e).publish
    (true, if s.overBudget then { s with pressure := true } else s)

structure SweepReport where
  expired : Nat
  evicted : Nat
deriving DecidableEq, Repr, Inhabited

def removeAll (s : Store) : List Live → Nat × Store
  | [] => (0, s)
  | l :: ls =>
    let (removed, s) := s.removeExact l.key l.serial
    let (n, s) := s.removeAll ls
    (if removed then n + 1 else n, s)

/-- Idle time and size together make an entry worth less: the larger the score, the sooner it
goes. A size of 64 KiB doubles the score of an empty entry. -/
def evictionScore (nowMs : Nat) (e : Entry) : Nat :=
  (nowMs - e.lastAccessMs + 1) * (65536 + e.footprint)

def evictionOrder (nowMs : Nat) (ls : List Live) : List Live :=
  ls.mergeSort fun a b => decide (evictionScore nowMs b.entry ≤ evictionScore nowMs a.entry)

def evict (s : Store) : List Live → Nat × Store
  | [] => (0, s)
  | l :: ls =>
    if s.overBudget then
      let (removed, s) := s.removeExact l.key l.serial
      let (n, s) := s.evict ls
      (if removed then n + 1 else n, s)
    else (0, s)

/-- Drops the expired entries and then the least valuable ones until the rest is within budget. -/
def sweep (s : Store) (now : Instant) : SweepReport × Store :=
  let (expired, s) := s.removeAll (s.live.filter fun l => l.entry.isExpired now)
  let (evicted, s) := s.evict (evictionOrder (Http.Date.unixMillis now) s.live)
  let removed := expired + evicted
  let counted := { s with stats := { s.stats with evictions := s.stats.evictions + removed } }
  (⟨expired, evicted⟩, if 0 < removed then counted.publish else s)

def series (s : Store) : List Series :=
  let gauges := match s.published with
    | some (heap, direct) => [⟨"proxy_cache_bytes", [("pool", "heap")], heap⟩,
        ⟨"proxy_cache_bytes", [("pool", "direct")], direct⟩]
    | none => []
  Series.counter "proxy_cache_lookups_total" [("result", "hit")] s.stats.hits ++
    Series.counter "proxy_cache_lookups_total" [("result", "miss")] s.stats.misses ++
    Series.counter "proxy_cache_evictions_total" [] s.stats.evictions ++ gauges

end Store
end ReverseProxy.Cache
