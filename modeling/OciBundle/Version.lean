/-
**Version texts.**

* `isVersion`: three numbers between points; digits of any script count.
-/

import OciBundle.Text.DecimalDigit
import OciBundle.Text.Separated

namespace OciBundle

/-- Whether a text is a number: at least one decimal digit and nothing else. -/
def isNumberText (text : String) : Bool :=
  text ≠ "" && text.toList.all Text.isDecimalDigit

/-- Whether a text is a version: three numbers between points. -/
def isVersion (text : String) : Bool :=
  match Text.fields '.' text with
  | [major, minor, patch] => isNumberText major && isNumberText minor && isNumberText patch
  | _ => false

end OciBundle
