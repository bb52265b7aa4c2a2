import ContentAssist.Proofs.Document.Arena
import ContentAssist.Proofs.Markup.Reading
import ContentAssist.Snapshot
import Mathlib.Data.List.Forall2

/-! The tree and the document of a text belong together: the elements of the document are those of the outline of
the tree, in the same order, and each repeats what the tree has at its place. Whoever walks the two side by side
relies on this. A snapshot that was read from a file need not be aligned. -/
namespace ContentAssist

open Markup (Token Covers)

/-- The attribute of the document repeats the attribute of the tree. -/
structure Document.Attribute.Repeats (owner : Nat) (markup : Markup.Attribute) (attr : Document.Attribute) :
    Prop where
  span : attr.span = markup.span
  key : ∃ token, markup.name = some token ∧ attr.key = token.image
  /-- The value is the text between the quotes. -/
  value : ∀ token, markup.string = some token →
    ∃ opening value closing, attr.value = some value ∧ token.image.toList = opening :: (value.toList ++ [closing])
  noValue : markup.string = none → attr.value = none
  owner : attr.owner = owner
  keyPlace : attr.places.key = markup.name.map fun token => ⟨token.image, token.span⟩
  valuePlace : attr.places.value = markup.string.map fun token => ⟨token.image, token.span⟩

/-- The text of the document repeats the run of the tree. -/
structure Document.Text.Repeats (run : Markup.CharacterData) (text : Document.Text) : Prop where
  span : text.span = run.span
  text : text.text = String.join (run.tokens.map Token.image)

/-- The element of the document repeats the element of the tree at the same place of the outline, and its links
are the places of its children and of the element around it. -/
structure Document.Element.Repeats (outline : List (List Nat × Markup.Element)) (place : Nat)
    (path : List Nat) (markup : Markup.Element) (element : Document.Element) : Prop where
  id : element.id = place
  span : element.span = markup.span
  name : element.name = markup.name.map Token.image
  attributes : List.Forall₂ (Document.Attribute.Repeats place) markup.attributes element.attributes
  texts : List.Forall₂ Document.Text.Repeats markup.runs element.texts
  subElementCount : element.subElements.length = markup.children.length
  subElements : ∀ index child, markup.children[index]? = some child →
    ∃ sub, element.subElements[index]? = some sub ∧ outline[sub]? = some (path ++ [index], child)
  rootParent : path = [] → element.parent = none
  parent : ∀ upper index, path = upper ++ [index] →
    ∃ up around, element.parent = some up ∧ outline[up]? = some (upper, around)
  openName : element.places.openName = markup.name.map fun token => ⟨token.image, token.span⟩
  /-- The opening tag reaches from its first token to its last. -/
  openBody : ∃ body, element.places.openBody = some body ∧
    Covers body (markup.openingTokens ++ markup.slashClose.toList)
  closeName : element.places.closeName = markup.endName.map fun token => ⟨token.image, token.span⟩

/-- The two halves of the snapshot belong together. -/
structure Snapshot.Aligned (snapshot : Snapshot) : Prop where
  span : snapshot.document.span = snapshot.tree.span
  root : snapshot.document.root = snapshot.tree.element.map fun _ => 0
  count : snapshot.document.elements.length = snapshot.tree.outline.length
  elements : ∀ (place : Nat) (path : List Nat) (markup : Markup.Element) (element : Document.Element),
    snapshot.tree.outline[place]? = some (path, markup) → snapshot.document.elements[place]? = some element →
      Document.Element.Repeats snapshot.tree.outline place path markup element

namespace Document

variable {source : List Char} {base : Nat} {above : Option Nat} {top markup : Markup.Element} {path : List Nat}

theorem unquote_toList {image : String} (h : 2 ≤ image.length) :
    ∃ opening closing, image.toList = opening :: ((unquote image).toList ++ [closing]) := by
  rw [← String.length_toList] at h
  cases hChars : image.toList with
  | nil => simp [hChars] at h
  | cons opening rest =>
      have hRest : rest ≠ [] := by
        rintro rfl
        simp [hChars] at h
      refine ⟨opening, rest.getLast hRest, ?_⟩
      simp [unquote, hChars, List.dropLast_append_getLast]

theorem ofMarkup_repeats {attr : Markup.Attribute} (h : attr.LaidOut) (owner : Nat) :
    Attribute.Repeats owner attr { Attribute.ofMarkup attr with owner := owner } := by
  obtain ⟨token, hName⟩ := h.name
  refine ⟨rfl, ⟨token, hName, ?_⟩, ?_, ?_, rfl, rfl, rfl⟩
  · simp [Attribute.ofMarkup, hName]
  · intro token hString
    obtain ⟨opening, closing, hImage⟩ := unquote_toList (h.string token hString)
    exact ⟨opening, _, closing, by simp [Attribute.ofMarkup, hString], hImage⟩
  · intro hString
    simp [Attribute.ofMarkup, hString]

theorem row_texts (base : Nat) (above : Option Nat) (top : Markup.Element) (path : List Nat)
    (markup : Markup.Element) : (row base above top path markup).texts = markup.runs.map Text.ofMarkup := by
  simp only [row, Element.ofMarkup, Markup.Element.runs, Markup.Element.parts]
  cases markup.content <;> rfl

/-- The recorded place of an opening tag spans its tokens. -/
theorem openBody_covers (h : markup.LaidOut source) :
    Covers ⟨markup.span.startOffset, openBodyEnd markup⟩ (markup.openingTokens ++ markup.slashClose.toList) := by
  obtain ⟨first, hOpening, hWidth, hStart⟩ := h.startOffset
  let start : Markup.Reader.StartTag :=
    ⟨first, markup.name, markup.attributes, markup.startClose, markup.slashClose⟩
  have hTokens : markup.openingTokens ++ markup.slashClose.toList = start.tokens := by
    simp [Markup.Element.openingTokens, hOpening, Markup.Reader.StartTag.tokens, start]
  have hLast : start.tokens.getLast?.map _ = _ := Markup.Reader.startTag_getLast? h.attributes
  rw [hTokens]
  refine ⟨⟨first, rfl, hStart⟩, Option.map_eq_some_iff.mp (hLast.trans ?_)⟩
  have hExclusive := h.slashClose
  simp only [start, openBodyEnd]
  cases hStartClose : markup.startClose with
  | some close => simp [hExclusive (by rw [hStartClose]; rfl)]
  | none =>
      cases markup.slashClose <;> cases markup.attributes.getLast? <;> cases markup.name <;>
        simp [hWidth, hStart]

/-- The row of an element repeats it. -/
theorem row_repeats {root : Markup.Element} (hLaid : markup.LaidOut source)
    (hAt : root.at? path = some markup) :
    Element.Repeats (root.outline []) (root.number path) path markup (row 0 none root path markup) where
  id := Nat.zero_add _
  span := rfl
  name := rfl
  attributes := by
    simp only [row, Element.ofMarkup, List.map_map, Nat.zero_add]
    rw [List.forall₂_map_right_iff, List.forall₂_same]
    intro attr hAttr
    exact ofMarkup_repeats (hLaid.attributes attr hAttr) _
  texts := by
    rw [row_texts, List.forall₂_map_right_iff, List.forall₂_same]
    intro run _
    exact ⟨rfl, rfl⟩
  subElementCount := by simp [row]
  subElements := by
    intro index child hChild
    have hDown : root.at? (path ++ [index]) = some child := by
      rw [Markup.Element.at?_append, hAt]
      simp [Markup.Element.at?, hChild]
    have hLt := (List.getElem?_eq_some_iff.mp hChild).1
    refine ⟨_, ?_, Markup.Element.getElem?_outline_number hDown []⟩
    simp [row, hLt]
  rootParent := by
    rintro rfl
    rfl
  parent := by
    rintro upper index rfl
    obtain ⟨around, hAround, _⟩ : ∃ around, root.at? upper = some around ∧ around.at? [index] = some markup := by
      rw [Markup.Element.at?_append] at hAt
      exact Option.bind_eq_some_iff.mp hAt
    refine ⟨_, around, ?_, Markup.Element.getElem?_outline_number hAround []⟩
    cases upper with
    | nil => rfl
    | cons step upper =>
        have hInit : (step :: (upper ++ [index])).dropLast = step :: upper := by
          rw [← List.cons_append, List.dropLast_concat]
        simp [row, hInit]
  openName := rfl
  openBody := ⟨_, rfl, openBody_covers hLaid⟩
  closeName := rfl

end Document

namespace Snapshot

/-- Every text has a snapshot. -/
theorem ofText_eq (source : String) :
    ofText source = .ok ⟨Markup.Tree.read source, Document.ofOutline (Markup.Tree.read source)⟩ := by
  simp only [ofText, Document.ofTree_eq]
  rfl

theorem tree_eq_of_ofText {source : String} {snapshot : Snapshot} {tree : Markup.Tree} {last : Markup.Input}
    (hSnapshot : ofText source = .ok snapshot)
    (hRead : Markup.Reader.document ⟨0, source.toList⟩ = (tree, last)) : snapshot.tree = tree := by
  rw [ofText_eq, Except.ok.injEq] at hSnapshot
  rw [← hSnapshot, Markup.Tree.read, hRead]

theorem elements_eq_rows {source : String} {snapshot : Snapshot} {root : Markup.Element}
    (hSnapshot : ofText source = .ok snapshot) (hRoot : snapshot.tree.element = some root) :
    snapshot.document.elements = Document.rows 0 none root := by
  have hDocument : snapshot.document = Document.ofOutline snapshot.tree := by
    rw [ofText_eq, Except.ok.injEq] at hSnapshot
    rw [← hSnapshot]
  simp only [hDocument, Document.ofOutline, Markup.Tree.outline, hRoot, Option.getD_some, Document.rows]

/-- A tree all of whose elements were read is aligned with the rows of its outline. -/
theorem aligned_ofOutline {source : List Char} {tree : Markup.Tree}
    (hRead : ∀ path markup, tree.at? path = some markup → Markup.Reader.IsRead source markup) :
    Aligned ⟨tree, Document.ofOutline tree⟩ where
  span := rfl
  root := rfl
  count := by simp [Document.ofOutline]
  elements := by
    intro place path markup element hEntry hElement
    dsimp only at hEntry hElement ⊢
    obtain ⟨hAt, hNumber⟩ := (Markup.Tree.getElem?_outline_iff ..).mp hEntry
    simp only [Document.ofOutline, List.getElem?_map, hEntry, Option.map_some, Option.some.injEq] at hElement
    subst hElement
    obtain ⟨root, hRoot, hPath⟩ := Option.bind_eq_some_iff.mp hAt
    have hOutline : tree.outline = root.outline [] := by
      simp only [Markup.Tree.outline, hRoot]
    have hPlace : root.number path = place := by
      rw [← hNumber]
      simp only [Markup.Tree.number, hRoot]
    simp only [hRoot, Option.getD_some, hOutline, ← hPlace]
    exact Document.row_repeats (hRead path markup hAt).laidOut hPath

theorem aligned_of_ofText {source : String} {snapshot : Snapshot} (h : ofText source = .ok snapshot) :
    snapshot.Aligned := by
  rw [ofText_eq, Except.ok.injEq] at h
  rw [← h]
  exact aligned_ofOutline fun _ _ => Markup.Tree.at?_isRead

/-- Every text has a snapshot, and its two halves are aligned at every level. -/
theorem exists_aligned (source : String) :
    ∃ snapshot, ofText source = .ok snapshot ∧ snapshot.tree = Markup.Tree.read source ∧ snapshot.Aligned :=
  ⟨_, ofText_eq source, rfl, aligned_of_ofText (ofText_eq source)⟩

end Snapshot

end ContentAssist
