/-!
Sets of characters given by closed ranges of code points.
-/

namespace InstallStatus.Text

/-- Whether `n` lies in one of the closed ranges. -/
def inRanges (ranges : Array (Nat × Nat)) (n : Nat) : Bool :=
  ranges.any fun range => range.1 ≤ n && n ≤ range.2

end InstallStatus.Text
