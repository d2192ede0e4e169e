import Mathlib.Order.Basic

/-!
# Leases with an idle time and a cap

A lease is granted at some time and renewed by every use. It lasts for the idle time after
its last use and for the cap after it was granted, whichever is earlier; at its deadline it
has ended. Uses with gaps below the idle time keep it until the cap.
-/

namespace TacacsWeb.Library

/-- A lease by the times of its grant and of its last use. -/
structure Lease where
  /-- When it was granted. -/
  granted : Nat
  /-- When it was used last. -/
  seen : Nat

namespace Lease

variable {idle cap : Nat}

/-- When the lease ends unless it is used again. -/
def deadline (idle cap : Nat) (lease : Lease) : Nat := min (lease.seen + idle) (lease.granted + cap)

/-- The lease has not ended. -/
def Live (idle cap : Nat) (lease : Lease) (now : Nat) : Prop := now < lease.deadline idle cap

instance (lease : Lease) (now : Nat) : Decidable (Live idle cap lease now) :=
  inferInstanceAs (Decidable (now < lease.deadline idle cap))

/-- A lease is live before both of its ends. -/
theorem live_iff {lease : Lease} {now : Nat} :
    lease.Live idle cap now ↔ now < lease.seen + idle ∧ now < lease.granted + cap :=
  Nat.lt_min

/-- A lease never lasts beyond the cap. -/
theorem deadline_le_cap (lease : Lease) : lease.deadline idle cap ≤ lease.granted + cap :=
  Nat.min_le_right _ _

/-- The lease after a use. -/
def touch (lease : Lease) (now : Nat) : Lease := { lease with seen := now }

/-- The gaps between a time and the ones after it are below the idle time. -/
def Gaps (idle : Nat) : Nat → List Nat → Prop
  | _, [] => True
  | last, now :: later => last ≤ now ∧ now < last + idle ∧ Gaps idle now later

end Lease

end TacacsWeb.Library
