import Mathlib.Order.Basic

/-!
# The wire between the login daemon and its workers
-/

namespace Synoik

/-- One frame. The first eight go from the worker to the daemon, the others from
the daemon to the worker. -/
inductive Frame where
  | infoQuery (text : String)
  | secretInfoQuery (text : String)
  | info (text : String)
  | problem (text : String)
  | complete
  | failed (text : String)
  | unavailable (text : String)
  | opened (id : String)
  | answer (secret : List UInt8)
  | open_
  | start
deriving DecidableEq

/-- The frames that only pass through. -/
def Frame.isMessage : Frame → Bool
  | .infoQuery _ | .secretInfoQuery _ | .info _ | .problem _ => true
  | _ => false

end Synoik
