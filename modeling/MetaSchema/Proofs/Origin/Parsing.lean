import MetaSchema.Proofs.Origin.Anonymous
import MetaSchema.Syntax.Parser

/-!
# Parsing without a uri

The uri of a document goes into the positions and nowhere else.

* `Grammar.schema_anonymous`: so it is with every root element, by one lemma for each function of
  the grammar.
* `Parser.parse_anonymous`: and with every document.
-/

namespace MetaSchema

namespace Grammar

open Xml (Element)
open Reported

variable {f : SourceError → SourceError} (uri : String) (e root : Element)

/-! ## What an element may hold -/

theorem checkPairs_anonymous (allowed : List String) :
    (checkPairs uri e allowed).anonymous f id = checkPairs "" e allowed := by
  have hpair : ∀ p, (pairIssue? uri e allowed p).map (Issue.anonymous f) =
      pairIssue? "" e allowed p := by
    intro p
    unfold pairIssue?
    split <;> split <;> rfl
  have hissues : (checkPairs uri e allowed).issues.map (Issue.anonymous f) =
      (checkPairs "" e allowed).issues := by
    unfold checkPairs
    simp only [List.map_filterMap, hpair]
  exact congrArg (Reported.mk ()) hissues

theorem required_anonymous (key : String) :
    (required uri e key).anonymous f id = required "" e key := by
  unfold required
  split <;> rfl

theorem nameOf_anonymous (k : NameKind) (key value : String) :
    (nameOf uri e k key value).anonymous f id = nameOf "" e k key value := by
  unfold nameOf
  split <;> rfl

theorem requiredName_anonymous (k : NameKind) (key : String) :
    (requiredName uri e k key).anonymous f id = requiredName "" e k key := by
  refine anonymous_bind (required_anonymous uri e key) fun value => ?_
  cases value with
  | none => rfl
  | some value => exact nameOf_anonymous uri e k key value

theorem requiredNumber_anonymous (key : String) :
    (requiredNumber uri e key).anonymous f id = requiredNumber "" e key := by
  refine anonymous_bind (required_anonymous uri e key) fun value => ?_
  cases value with
  | none => rfl
  | some value =>
    dsimp only [id]
    split <;> rfl

theorem version_anonymous : (version uri e).anonymous f id = version "" e := by
  refine anonymous_bind (requiredNumber_anonymous uri e _) fun major => ?_
  refine anonymous_bind (requiredNumber_anonymous uri e _) fun minor => ?_
  rfl

theorem elements_anonymous : (elements uri e).anonymous f id = elements "" e := by
  have hstray : ∀ n, (strayText? uri e n).map (Issue.anonymous f) = strayText? "" e n := by
    intro n
    unfold strayText?
    split
    · rfl
    · split <;> rfl
  have hissues : (elements uri e).issues.map (Issue.anonymous f) = (elements "" e).issues := by
    unfold elements
    simp only [List.map_filterMap, hstray]
  exact congrArg (Reported.mk (elements uri e).value) hissues

theorem refuse_anonymous (children : List Element) :
    (refuse uri e children).anonymous f id = refuse "" e children := by
  have hissues : (refuse uri e children).issues.map (Issue.anonymous f) =
      (refuse "" e children).issues := by
    unfold refuse
    rw [List.map_map]
    rfl
  exact congrArg (Reported.mk ()) hissues

theorem checkEmpty_anonymous : (checkEmpty uri e).anonymous f id = checkEmpty "" e :=
  anonymous_bind (elements_anonymous uri e) fun children => refuse_anonymous uri e children

/-! ## The elements of the language -/

theorem commentNode_anonymous :
    (commentNode uri e).anonymous f CommentNode.anonymous = commentNode "" e := by
  refine anonymous_bind (checkPairs_anonymous uri e _) fun _ => ?_
  refine anonymous_bind (refuse_anonymous uri e _) fun _ => ?_
  rfl

theorem primitiveReference_anonymous :
    (primitiveReference uri e).anonymous f id = primitiveReference "" e := by
  refine anonymous_bind (checkPairs_anonymous uri e _) fun _ => ?_
  refine anonymous_bind (checkEmpty_anonymous uri e) fun _ => ?_
  refine anonymous_bind (required_anonymous uri e _) fun keyword => ?_
  cases keyword with
  | none => rfl
  | some keyword =>
    dsimp only [id]
    split <;> rfl

theorem qualifier_anonymous : (qualifier uri e).anonymous f id = qualifier "" e := by
  unfold qualifier
  split
  · rfl
  · exact anonymous_bind (nameOf_anonymous uri e _ _ _) fun _ => rfl

theorem namedReference_anonymous : (namedReference uri e).anonymous f id = namedReference "" e := by
  refine anonymous_bind (checkPairs_anonymous uri e _) fun _ => ?_
  refine anonymous_bind (checkEmpty_anonymous uri e) fun _ => ?_
  refine anonymous_bind (qualifier_anonymous uri e) fun _ => ?_
  refine anonymous_bind (requiredName_anonymous uri e _ _) fun _ => ?_
  rfl

theorem writtenReference_anonymous (parent : Element) :
    (writtenReference uri parent e).anonymous f id = writtenReference "" parent e := by
  unfold writtenReference
  split
  · exact primitiveReference_anonymous uri e
  · exact namedReference_anonymous uri e
  · rfl

theorem reference_anonymous (parent : Element) :
    (reference uri parent e).anonymous f (Option.map ReferenceNode.anonymous) =
      reference "" parent e := by
  refine anonymous_bind (writtenReference_anonymous uri e parent) fun written => ?_
  cases written <;> rfl

theorem leadingReference_anonymous (tagName : String) (children : List Element) :
    (leadingReference uri e tagName children).anonymous f (Option.map ReferenceNode.anonymous) =
      leadingReference "" e tagName children := by
  cases children with
  | nil => rfl
  | cons child _ => exact reference_anonymous uri child e

theorem importNode_anonymous :
    (importNode uri e).anonymous f (Option.map ImportNode.anonymous) = importNode "" e := by
  refine anonymous_bind (checkPairs_anonymous uri e _) fun _ => ?_
  refine anonymous_bind (checkEmpty_anonymous uri e) fun _ => ?_
  refine anonymous_bind (requiredName_anonymous uri e _ _) fun target => ?_
  refine anonymous_bind (version_anonymous uri e) fun version => ?_
  cases target <;> cases version <;> rfl

theorem trailingComment_anonymous (children : List Element) :
    (trailingComment uri e children).anonymous f (Option.map CommentNode.anonymous) =
      trailingComment "" e children := by
  cases children with
  | nil => rfl
  | cons child others =>
    have hrest : ∀ found : Option CommentNode,
        (refuse uri e others >>= fun _ => pure found).anonymous f (Option.map CommentNode.anonymous) =
          refuse "" e others >>= fun _ => pure (found.map CommentNode.anonymous) :=
      fun found => anonymous_bind (refuse_anonymous uri e others) fun _ => rfl
    unfold trailingComment
    dsimp only
    split
    · refine anonymous_bind (g := Option.map CommentNode.anonymous) ?_ hrest
      exact anonymous_bind (commentNode_anonymous uri child) fun _ => rfl
    · exact anonymous_bind (anonymous_fail CommentNode.anonymous _) hrest

theorem typeNode_anonymous :
    (typeNode uri e).anonymous f (Option.map TypeNode.anonymous) = typeNode "" e := by
  refine anonymous_bind (checkPairs_anonymous uri e _) fun _ => ?_
  refine anonymous_bind (requiredName_anonymous uri e _ _) fun name => ?_
  refine anonymous_bind (elements_anonymous uri e) fun children => ?_
  refine anonymous_bind (leadingReference_anonymous uri e _ children) fun base => ?_
  refine anonymous_bind (trailingComment_anonymous uri e _) fun comment => ?_
  cases name <;> cases base <;> rfl

theorem cardinality_anonymous : (cardinality uri e).anonymous f id = cardinality "" e := by
  refine anonymous_bind (required_anonymous uri e _) fun token => ?_
  cases token with
  | none => rfl
  | some token =>
    dsimp only [id]
    split <;> rfl

theorem attributeNode_anonymous :
    (attributeNode uri e).anonymous f (Option.map AttributeNode.anonymous) = attributeNode "" e := by
  refine anonymous_bind (checkPairs_anonymous uri e _) fun _ => ?_
  refine anonymous_bind (requiredName_anonymous uri e _ _) fun name => ?_
  refine anonymous_bind (cardinality_anonymous uri e) fun cardinality => ?_
  refine anonymous_bind (elements_anonymous uri e) fun children => ?_
  refine anonymous_bind (leadingReference_anonymous uri e _ children) fun reference => ?_
  refine anonymous_bind (refuse_anonymous uri e _) fun _ => ?_
  cases name <;> cases reference <;> cases cardinality <;> rfl

theorem child_anonymous :
    (child uri root e).anonymous f (Option.map Child.anonymous) = child "" root e := by
  unfold child
  split
  · refine anonymous_bind (importNode_anonymous uri e) fun node => ?_
    cases node <;> rfl
  · refine anonymous_bind (typeNode_anonymous uri e) fun node => ?_
    cases node <;> rfl
  · refine anonymous_bind (attributeNode_anonymous uri e) fun node => ?_
    cases node <;> rfl
  · exact anonymous_bind (commentNode_anonymous uri e) fun _ => rfl
  · rfl

theorem childrenOf_anonymous (es : List Element) :
    (childrenOf uri root es).anonymous f (List.map Child.anonymous) = childrenOf "" root es := by
  induction es with
  | nil => rfl
  | cons e es ih =>
    refine anonymous_bind (child_anonymous uri e root) fun first => ?_
    refine anonymous_bind ih fun rest => ?_
    cases first <;> rfl

/-! ## The root element -/

def Content.anonymous (c : Content) : Content :=
  { c with children := c.children.map Child.anonymous }

theorem content_anonymous :
    (content uri root).anonymous f Content.anonymous = content "" root := by
  refine anonymous_bind (checkPairs_anonymous uri root _) fun _ => ?_
  refine anonymous_bind (requiredName_anonymous uri root _ _) fun name => ?_
  refine anonymous_bind (version_anonymous uri root) fun version => ?_
  refine anonymous_bind (elements_anonymous uri root) fun es => ?_
  exact anonymous_bind (childrenOf_anonymous uri root es) fun children => rfl

theorem treeOf_anonymous (c : Content) :
    (treeOf uri root c).anonymous f (Option.map Tree.anonymous) = treeOf "" root c.anonymous := by
  obtain ⟨name, version, children⟩ := c
  unfold treeOf Content.anonymous
  cases name with
  | none => rfl
  | some name =>
    cases version with
    | none => rfl
    | some version =>
      have htree := Tree.ofChildren?_anonymous (position uri root.place) () name version children
      dsimp only
      rw [show position "" root.place = (position uri root.place).anonymous from rfl, htree]
      cases Tree.ofChildren? (position uri root.place) () name version children with
      | ok tree => rfl
      | error e => cases e <;> rfl

/-- **The root element.** -/
theorem schema_anonymous :
    (schema uri root).anonymous f (Option.map Tree.anonymous) = schema "" root := by
  unfold schema
  split
  · have herrors : (content "" root).hasErrors = (content uri root).hasErrors := by
      rw [← content_anonymous (f := id) uri root]
      unfold hasErrors Reported.anonymous
      rw [List.any_map]
      exact congrArg (List.any _) (funext Issue.isError_anonymous)
    dsimp only
    rw [herrors]
    split
    · exact congrArg (fun c => (⟨none, c.issues⟩ : Reported (Option (Tree .parsed))))
        (content_anonymous uri root)
    · exact anonymous_bind (content_anonymous uri root) fun c => treeOf_anonymous uri root c
  · rfl

end Grammar

namespace Parser

variable (p : Parser) (uri : String)

theorem xmlError_anonymous (e : Xml.Error) : (p.xmlError uri e).anonymous = p.xmlError "" e := by
  cases e <;> rfl

theorem root?_anonymous (document : Text.Octets) :
    p.root? "" document = (p.root? uri document).mapError ParseError.anonymous := by
  unfold root?
  cases p.unusable? with
  | some config => rfl
  | none =>
    dsimp only
    cases Text.decodeDocument document with
    | error encoding => rfl
    | ok text =>
      dsimp only
      cases Xml.root? p.nodesLimit text with
      | error e => exact congrArg Except.error (p.xmlError_anonymous uri e).symm
      | ok root => rfl

/-- **Parsing.** The uri of a document shows in positions only. -/
theorem parse_anonymous (hp : p.languages = [.version1]) (f : SourceError → SourceError)
    (document : Text.Octets) :
    (p.parse uri document).anonymous f (Option.map Tree.anonymous) = p.parse "" document := by
  unfold parse
  rw [p.root?_anonymous uri document]
  cases p.root? uri document with
  | error e => rfl
  | ok root =>
    dsimp only [Except.mapError]
    cases hl : p.language? (root.name.uri.getD "") with
    | none => rfl
    | some language =>
      have hmem := List.mem_of_find?_eq_some hl
      rw [hp, List.mem_singleton] at hmem
      subst hmem
      exact Grammar.schema_anonymous uri root

end Parser

end MetaSchema
