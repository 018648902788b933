import MetaSchema.Text.Quoted

/-!
# Cardinalities

How often an attribute may occur in a document.

* `Cardinality.token`, `Cardinality.ofToken?`: the written form, and reading it.
* `Cardinality.accepts`: whether a number of occurrences is allowed.
-/

namespace MetaSchema

inductive Cardinality where
  | exactlyOne
  | zeroOrOne
  | zeroOrMany
  | oneOrMany
deriving DecidableEq, Repr

namespace Cardinality

def token : Cardinality → String
  | exactlyOne => "1"
  | zeroOrOne => "0..1"
  | zeroOrMany => "0..N"
  | oneOrMany => "1..N"

instance : ToString Cardinality := ⟨token⟩

def ofToken? : String → Option Cardinality
  | "1" => some exactlyOne
  | "0..1" => some zeroOrOne
  | "0..N" => some zeroOrMany
  | "1..N" => some oneOrMany
  | _ => none

/-- The message for a text that is no token. -/
def unknownToken (s : String) : String := "unknown cardinality " ++ Text.quote s

def accepts : Cardinality → Nat → Bool
  | exactlyOne, n => n == 1
  | zeroOrOne, n => n ≤ 1
  | zeroOrMany, _ => true
  | oneOrMany, n => 1 ≤ n

theorem ofToken?_token (c : Cardinality) : ofToken? c.token = some c := by
  cases c <;> rfl

end Cardinality

end MetaSchema
