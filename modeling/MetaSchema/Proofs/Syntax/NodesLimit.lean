import MetaSchema.Proofs.Lists
import MetaSchema.Syntax.Parser

/-!
# A higher limit on nodes

A limit on the nodes of a document only ever rejects documents.

* `Builder.add_of_le`: with a higher limit a token is added to a document just as with the lower one.
* `Xml.root?_of_le`: so a document that can be read is read as before.
* `Parser.parse_of_le`: and parsed as before, with the same issues, if it gave a tree.
-/

namespace MetaSchema

namespace Xml

variable {limit limit' : Nat} {b b' : Builder}

namespace Builder

theorem grow_of_le (hle : limit ≤ limit') (h : b.grow limit = .ok b') : b.grow limit' = .ok b' := by
  unfold grow at h ⊢
  split at h
  · cases h
  · rw [if_neg (by omega)]
    exact h

theorem addText_of_le (hle : limit ≤ limit') {content : List Char} {place : Place}
    (h : b.addText limit content place = .ok b') : b.addText limit' content place = .ok b' := by
  unfold addText at h ⊢
  split at h
  · exact h
  · split at h
    · exact h
    · obtain ⟨grown, hgrow, h⟩ := bind_eq_ok.mp h
      exact bind_eq_ok.mpr ⟨grown, grow_of_le hle hgrow, h⟩

theorem endTag_of_le (hle : limit ≤ limit') {closed : Bool} (h : b.endTag limit closed = .ok b') :
    b.endTag limit' closed = .ok b' := by
  unfold endTag at h ⊢
  split at h
  · exact h
  · obtain ⟨pairs, hpairs, h⟩ := bind_eq_ok.mp h
    obtain ⟨uri, huri, h⟩ := bind_eq_ok.mp h
    obtain ⟨grown, hgrow, h⟩ := bind_eq_ok.mp h
    exact bind_eq_ok.mpr ⟨pairs, hpairs, bind_eq_ok.mpr ⟨uri, huri,
      bind_eq_ok.mpr ⟨grown, grow_of_le hle hgrow, h⟩⟩⟩

/-- **Adding a token.** -/
theorem add_of_le (hle : limit ≤ limit') {t : Token} (h : b.add limit t = .ok b') :
    b.add limit' t = .ok b' := by
  cases t with
  | aside => exact grow_of_le hle h
  | tagEnd closed => exact endTag_of_le hle h
  | text raw place =>
    obtain ⟨ps, hps, h⟩ := bind_eq_ok.mp h
    exact bind_eq_ok.mpr ⟨ps, hps, addText_of_le hle h⟩
  | cdata raw place => exact addText_of_le hle h
  | tagStart name place => exact h
  | pair name raw place valuePlace => exact h
  | close name place => exact h

theorem foldlM_add_of_le (hle : limit ≤ limit') (ts : List Token)
    (h : ts.foldlM (add limit) b = .ok b') : ts.foldlM (add limit') b = .ok b' := by
  induction ts generalizing b with
  | nil => exact h
  | cons t ts ih =>
    rw [List.foldlM_cons] at h ⊢
    obtain ⟨next, hadd, h⟩ := bind_eq_ok.mp h
    exact bind_eq_ok.mpr ⟨next, add_of_le hle hadd, ih h⟩

end Builder

/-- **Reading a document.** -/
theorem root?_of_le (hle : limit ≤ limit') {cs : List Char} {root : Element}
    (h : root? limit cs = .ok root) : root? limit' cs = .ok root := by
  obtain ⟨b, hb, h⟩ := bind_eq_ok.mp h
  exact bind_eq_ok.mpr ⟨b, Builder.foldlM_add_of_le hle _ hb, h⟩

end Xml

namespace Parser

variable {p : Parser} {limit : Nat} {uri : String} {document : Text.Octets}

theorem root?_of_le (hle : p.nodesLimit ≤ limit) {root : Xml.Element}
    (h : p.root? uri document = .ok root) :
    { p with nodesLimit := limit }.root? uri document = .ok root := by
  unfold root? at h ⊢
  cases hunusable : p.unusable? with
  | some config => simp [hunusable] at h
  | none =>
    have husable : { p with nodesLimit := limit }.unusable? = none := by
      unfold unusable? at hunusable ⊢
      split at hunusable
      · cases hunusable
      · rw [if_neg (show limit ≠ 0 by omega)]
        exact hunusable
    simp only [hunusable, husable] at h ⊢
    split at h
    · cases h
    · split at h
      · cases h
      · rename_i hroot
        rw [Xml.root?_of_le hle hroot]
        exact h

/-- **Parsing a document** that gives a tree. -/
theorem parse_of_le (hle : p.nodesLimit ≤ limit) {tree : Tree .parsed}
    (h : (p.parse uri document).value = some tree) :
    { p with nodesLimit := limit }.parse uri document = p.parse uri document := by
  unfold parse at h ⊢
  cases hroot : p.root? uri document with
  | error e => simp [hroot, Reported.fail] at h
  | ok root =>
    rw [root?_of_le hle hroot]
    rfl

end Parser

end MetaSchema
