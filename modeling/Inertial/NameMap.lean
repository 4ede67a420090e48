import Inertial.Text.Utf8
import Std.Data.ExtTreeMap

/-!
Maps from names, in the byte-wise order of their UTF-8 encodings. Maps with the same entries are
equal, and listings are strictly increasing.
-/

namespace Inertial

/-- Names compare as their UTF-8 bytes do, byte by byte from the left. -/
def nameOrder : String → String → Ordering := compareOn Text.utf8Bytes

instance : Std.TransCmp nameOrder := inferInstanceAs (Std.TransCmp (compareOn Text.utf8Bytes))

theorem Text.utf8Bytes_injective {left right : String} (same : utf8Bytes left = utf8Bytes right)
    : left = right := by
  apply String.toByteArray_inj.mp
  apply ByteArray.ext
  exact Array.toList_inj.mp same

/-- Different names have different encodings, so only equal names compare as equal. -/
instance : Std.LawfulEqCmp nameOrder where
  eq_of_compare same := Text.utf8Bytes_injective (Std.LawfulEqCmp.eq_of_compare same)

abbrev NameMap (Value : Type) := Std.ExtTreeMap String Value nameOrder

end Inertial
