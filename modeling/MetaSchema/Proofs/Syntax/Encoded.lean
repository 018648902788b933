import MetaSchema.Proofs.Text.Encoding
import MetaSchema.Syntax.Parser

/-!
# The encoding of a document

Of a document only its text matters.

* `Parser.parse_congr`: documents with the same text are parsed alike.
* `Parser.parse_undecodable`: what is reported of a document without a text.
* `Parser.parse_encoded`: each encoding of a text is parsed alike, and octets that are not valid in the
  encoding that they select are malformed.
-/

namespace MetaSchema

open Text

namespace Parser

variable {p : Parser}

theorem parse_congr (uri : String) {os os' : Octets} (h : decodeDocument os = decodeDocument os') :
    p.parse uri os = p.parse uri os' := by
  unfold parse root?
  rw [h]

theorem unusable?_eq_none (hlimit : 0 < p.nodesLimit) (hlanguages : p.languages ≠ []) :
    p.unusable? = none := by
  unfold unusable?
  rw [if_neg (Nat.ne_of_gt hlimit), if_neg (by rwa [List.isEmpty_iff])]

theorem parse_undecodable (husable : p.unusable? = none) (uri : String) {os : Octets} {e : Encoding}
    (h : decodeDocument os = .error e) :
    p.parse uri os = .fail (.parse (.undecodable e ⟨uri, 0, 0⟩)) := by
  have hroot : p.root? uri os = .error (.undecodable e ⟨uri, 0, 0⟩) := by
    rw [root?, husable, h]
  rw [parse, hroot]

/-- **Only the text of a document matters.** The octets of a text in UTF-8, in UTF-8 with a mark and in
both forms of UTF-16 with a mark are parsed alike. Octets that are not those of any text in the
encoding that they select give no tree and one issue, which says that the document is malformed. -/
theorem parse_encoded (hlimit : 0 < p.nodesLimit) (hlanguages : p.languages ≠ []) (uri : String) :
    (∀ text : List Char, text.head? ≠ some '\ufeff' → ∀ e : Encoding,
      p.parse uri (e.mark ++ e.encode text) = p.parse uri (Encoding.utf8.encode text)) ∧
    ∀ (e : Encoding) (os body : Octets), e.Selected os body → (∀ text, body ≠ e.encode text) →
      (p.parse uri os).value = none ∧
      ∃ i, (p.parse uri os).issues = [i] ∧ i.diagnostic.code = .parseMalformedXml := by
  constructor
  · intro text htext e
    have hmarked : decodeDocument (e.mark ++ e.encode text) = .ok text :=
      decodeDocument_encode (.marked e _)
    have hunmarked : decodeDocument (Encoding.utf8.encode text) = .ok text :=
      decodeDocument_encode (Encoding.selected_utf8Octets htext)
    exact parse_congr uri (hmarked.trans hunmarked.symm)
  · intro e os body hos hbody
    have hparse := parse_undecodable (unusable?_eq_none hlimit hlanguages) uri
      (decodeDocument_invalid hos hbody)
    rw [hparse]
    exact ⟨rfl, _, rfl, rfl⟩

/-- A text with a character beyond 16 bits, and an octet too many after the mark of UTF-16. -/
theorem parse_encoded_emoji : 0 < ({} : Parser).nodesLimit ∧ ({} : Parser).languages ≠ [] ∧
    (∀ e : Encoding, ({} : Parser).parse "a.xml" (e.mark ++ e.encode "<a b='😀'/>".toList) =
      ({} : Parser).parse "a.xml" (Encoding.utf8.encode "<a b='😀'/>".toList)) ∧
    ∃ i, (({} : Parser).parse "a.xml" [0xFF, 0xFE, 0x3C]).issues = [i] ∧
      i.diagnostic.code = .parseMalformedXml := by
  have hlimit : 0 < ({} : Parser).nodesLimit := by decide
  have hlanguages : ({} : Parser).languages ≠ [] := List.cons_ne_nil _ _
  have hodd : ∀ text, [0x3C] ≠ Encoding.utf16le.encode text := by
    intro text h
    have hdecode : Encoding.utf16le.decode [0x3C] = some text := Encoding.decode_eq_some.mpr h
    cases hdecode
  obtain ⟨hvalid, hinvalid⟩ := parse_encoded hlimit hlanguages "a.xml"
  refine ⟨hlimit, hlanguages, hvalid _ (by decide), ?_⟩
  exact (hinvalid .utf16le _ [0x3C] (.marked _ _) hodd).2

end Parser

end MetaSchema
