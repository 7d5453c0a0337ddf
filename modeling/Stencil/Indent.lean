import Stencil.Datum
import Stencil.Failure

/-! Indentations: the widths that configured values stand for. -/

namespace Stencil

namespace Indent

/-- The width that an indentation stands for: a text's length, or a number without its fraction. -/
def width : Datum → Except Failure Int
  | .text value => .ok value.length
  | .int value => .ok value
  | .bool value => .ok (if value then 1 else 0)
  | .float value =>
    match Double.ofFloat value with
    | .finite negative significand exponent =>
      let size :=
        if exponent < 0 then significand / Nat.pow 2 (-exponent).toNat
        else significand * Nat.pow 2 exponent.toNat
      .ok (if negative then -Int.ofNat size else Int.ofNat size)
    | .infinite _ => .error .tooLarge
    | .nan => .error (.raised .value "cannot convert float NaN to integer")
  | _ => .error .wrongType

end Indent

end Stencil
