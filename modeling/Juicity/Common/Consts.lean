/-!
Owns the constants of `common/src/consts.rs` that the models read. Durations
and instants are natural numbers of nanoseconds on one clock that never runs
backwards; `Duration` and `Instant` are the two readings of such a number.
-/

namespace Juicity.Common

abbrev Duration := Nat

abbrev Instant := Nat

def Duration.fromSecs (seconds : Nat) : Duration := seconds * 1000000000

def Duration.fromMillis (milliseconds : Nat) : Duration := milliseconds * 1000000

/-- `Duration::as_millis`. -/
def Duration.asMillis (duration : Duration) : Nat := duration / 1000000

/-- `Instant::duration_since` saturates at zero. -/
def Instant.durationSince (later earlier : Instant) : Duration := later - earlier

theorem Instant.lt_add_of_durationSince_lt {later earlier : Instant} {limit : Duration}
    (young : later.durationSince earlier < limit) : later < earlier + limit := by
  unfold Instant.durationSince Duration at *
  unfold Instant at *
  omega

namespace Consts

def ethernetMtu : Nat := 1500
def inFlightUnderlayTtl : Duration := Duration.fromSecs 10
def inFlightUnderlayEvictTimeout : Duration := Duration.fromMillis 100
def underlaySaltLen : Nat := 32
def maxUdpDnsCache : Nat := 256
def udpDnsCacheTtl : Duration := Duration.fromSecs 300
def maxInFlightUnderlayEntries : Nat := 10000
def clientUdpSessionIdleTimeout : Duration := Duration.fromSecs 180
def dnsQueryTimeout : Duration := Duration.fromSecs 17
def tcpRelayIdleTimeout : Duration := Duration.fromSecs 600
def authenticateTimeout : Duration := Duration.fromSecs 10

end Consts

end Juicity.Common
