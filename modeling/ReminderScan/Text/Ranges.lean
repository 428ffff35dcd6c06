/-! Sets of characters given by ranges of code points, ends included. -/

namespace ReminderScan.Text

abbrev Ranges := List (Nat × Nat)

def Ranges.contains (ranges : Ranges) (c : Char) : Bool :=
  ranges.any fun r => r.1 ≤ c.toNat && c.toNat ≤ r.2

end ReminderScan.Text
