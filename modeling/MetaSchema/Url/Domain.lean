import MetaSchema.Url.Label
import MetaSchema.Url.Percent

/-!
# Domain names

A domain name in ASCII, whatever the case and the script that it is written in.

* `isForbiddenInDomain`: the ASCII characters that no name has.
* `domain?`: a whole name.
-/

namespace MetaSchema.Url

open Text

/-- ASCII characters that no domain name has. -/
def isForbiddenInDomain (c : Char) : Bool :=
  c.toNat ≤ 0x20 || c.toNat == 0x7F || "%#/:<>?@[\\]^|".toList.contains c

/-- A domain name in ASCII. It may be written with escapes. -/
def domain? (cs : List Char) : Option (List Char) :=
  (Encoding.utf8.decode (percentDecode cs)).bind fun text =>
    let folded := foldText text
    if folded.any fun c => isForbiddenInDomain c || isDisallowed c then none
    else
      ((folded.splitOn '.').mapM label?).bind fun labels =>
        if labels.any (·.any isOfBothWays) ∧ ¬ labels.all directionFits then none
        else some (['.'].intercalate (labels.map labelText))

example : domain? ['\ufb01', '.', '\u00dc'] = some "fi.xn--tda".toList := by decide +kernel

end MetaSchema.Url
