import IntegrationFlow.Decimal.Text
import IntegrationFlow.Json.Reader

/-!
# Doubles as JSON
-/

namespace IntegrationFlow.Json

/-- Numbers have a point or a power of ten. They are written out from five places behind the point
to sixteen before it, and of two equally near decimals the even one is taken. -/
def numberStyle : Decimal.Style := ⟨.toEven, ".0", fun point => -5 < point && point ≤ 16⟩

/-- A double as a number; what is no number becomes null. -/
def ofFloat (x : Float) : Json :=
  match x.isFinite, readNumber? (numberStyle.print x).toList with
  | true, some (n, _) => .number n
  | _, _ => .null

end IntegrationFlow.Json
