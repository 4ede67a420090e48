import Inertial.Text.CharClass

/-!
The Unicode property `White_Space`.
-/

namespace Inertial.Text

/-- The characters that count as blank at the ends of a setting. -/
def blank : CharClass where
  ranges :=
    [(0x0009, 0x000D), (0x0020, 0x0020), (0x0085, 0x0085), (0x00A0, 0x00A0), (0x1680, 0x1680),
    (0x2000, 0x200A), (0x2028, 0x2029), (0x202F, 0x202F), (0x205F, 0x205F), (0x3000, 0x3000)]

end Inertial.Text
