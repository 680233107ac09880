import Mathlib.Data.List.Infix
import Mathlib.Data.List.TakeWhile
import SapMonitor.Markup.Document

/-!
# Written documents

A document is written as a sequence of nodes: elements, comments, instructions and
verbatim sections.  Every node comes with the raw text before it, so that no two raw
texts are neighbours.  A written document has a text and, if it is sound, a meaning: the
events that reading it gives, and the element trees that these amount to.

Soundness is about the marks that hold a document together and asks no more than they
need: any name may be used that does not end a tag, quotes in a tag have to be closed, and
a raw text may contain any reference that can be resolved.

Main results:

- `Tag.Sound.localName_qualified`: a prefix does not change what an element is called.
- `Node.trees_eq_filterMap`: the trees of nodes are those of the elements among them.
- `Node.readable_of_gap`: white space can stand before any node.
-/

namespace SapMonitor.Markup

/-! ## Tags -/

/-- Whether a character may be part of a name in a tag: it ends neither the name nor the
tag. -/
def isTagChar (c : Char) : Bool :=
  !(isGap c || c = '\x0c' || c = '>' || c = '/' || c = '"' || c = '\'')

theorem isTagChar_iff {c : Char} : isTagChar c = true ↔
    isGap c = false ∧ c ≠ '\x0c' ∧ c ≠ '>' ∧ c ≠ '/' ∧ c ≠ '"' ∧ c ≠ '\'' := by
  simp only [isTagChar, Bool.not_eq_true', Bool.or_eq_false_iff, decide_eq_false_iff_not,
    and_assoc]

/-- Whether a text inside a tag has its quotes closed, and no bracket outside of them; an
open quote is given. -/
def closesQuotes : Option Char → List Char → Bool
  | none, [] => true
  | some _, [] => false
  | none, c :: cs =>
    if c = '>' then false
    else closesQuotes (if c = '\'' || c = '"' then some c else none) cs
  | some quote, c :: cs => closesQuotes (if c = quote then none else some quote) cs

/-- A tag as it is written: a prefix if there is one, the local name, and what follows the
name. -/
structure Tag where
  space : Option (List Char)
  name : List Char
  attributes : List Char := []

namespace Tag

/-- A tag that is its name alone. -/
def bare (name : String) : Tag :=
  { space := none, name := name.toList }

/-- The name with its prefix. -/
def qualified (t : Tag) : List Char :=
  match t.space with
  | none => t.name
  | some space => space ++ ':' :: t.name

/-- The tag without its brackets. -/
def inside (t : Tag) : List Char :=
  t.qualified ++ t.attributes

/-- A tag that can be read back. -/
structure Sound (t : Tag) : Prop where
  named : t.qualified ≠ []
  plain : ∀ c ∈ t.qualified, isTagChar c = true
  /-- It does not look like a declaration or an instruction. -/
  opening : t.qualified.head? ≠ some '!' ∧ t.qualified.head? ≠ some '?'
  /-- There is one colon at most before the local name. -/
  space : ':' ∉ t.space.getD t.name
  /-- What follows the name stands apart from it. -/
  apart : t.attributes.head?.all isGap = true
  closed : closesQuotes none t.attributes = true
  /-- It does not look like an empty element. -/
  filled : t.attributes.getLast? ≠ some '/'

instance (t : Tag) : Decidable t.Sound :=
  decidable_of_iff
    (t.qualified ≠ [] ∧ t.qualified.all isTagChar = true ∧
      (t.qualified.head? ≠ some '!' ∧ t.qualified.head? ≠ some '?') ∧
      ':' ∉ t.space.getD t.name ∧ t.attributes.head?.all isGap = true ∧
      closesQuotes none t.attributes = true ∧ t.attributes.getLast? ≠ some '/')
    ⟨fun ⟨hnamed, hplain, hopening, hspace, hapart, hclosed, hfilled⟩ =>
        ⟨hnamed, List.all_eq_true.1 hplain, hopening, hspace, hapart, hclosed, hfilled⟩,
      fun h => ⟨h.named, List.all_eq_true.2 h.plain, h.opening, h.space, h.apart, h.closed,
        h.filled⟩⟩

/-- A prefix does not change what an element is called. -/
theorem Sound.localName_qualified {t : Tag} (h : t.Sound) : localName t.qualified = t.name := by
  have hspace := h.space
  unfold qualified localName
  cases hs : t.space with
  | none =>
    rw [hs, Option.getD_none] at hspace
    have hall : ∀ c ∈ t.name, decide (c ≠ ':') = true := by
      intro c hc
      exact decide_eq_true fun he => hspace (he ▸ hc)
    have hdrop : t.name.dropWhile (· ≠ ':') = [] := by
      rw [List.dropWhile_eq_nil_iff]
      exact hall
    simp only [hdrop]
  | some space =>
    rw [hs, Option.getD_some] at hspace
    have hall : ∀ c ∈ space, decide (c ≠ ':') = true := by
      intro c hc
      exact decide_eq_true fun he => hspace (he ▸ hc)
    have hdrop : (space ++ ':' :: t.name).dropWhile (· ≠ ':') = ':' :: t.name := by
      rw [List.dropWhile_append_of_pos hall]
      simp
    simp only [hdrop]

end Tag

/-! ## Nodes -/

/-- A node of a written document, with the raw text before it.  The text between the last
node of an element and its end tag belongs to the element. -/
inductive Node where
  | element (before : List Char) (tag : Tag) (content : List Node) (after : List Char)
  | empty (before : List Char) (tag : Tag)
  | comment (before body : List Char)
  | instruction (before body : List Char)
  | verbatim (before body : List Char)

namespace Node

/-- The raw text before a node. -/
def before : Node → List Char
  | element before .. => before
  | empty before _ => before
  | comment before _ => before
  | instruction before _ => before
  | verbatim before _ => before

mutual

/-- The text of a node. -/
def written : Node → List Char
  | element before tag content after =>
    before ++ '<' :: (tag.inside ++ '>' :: (writtenAll content ++
      (after ++ '<' :: '/' :: (tag.qualified ++ ['>']))))
  | empty before tag => before ++ '<' :: (tag.inside ++ ['/', '>'])
  | comment before body => before ++ '<' :: '!' :: '-' :: '-' :: (body ++ ['-', '-', '>'])
  | instruction before body => before ++ '<' :: '?' :: (body ++ ['?', '>'])
  | verbatim before body =>
    before ++ '<' :: '!' :: ('[' :: 'C' :: 'D' :: 'A' :: 'T' :: 'A' :: '[' ::
      (body ++ [']', ']', '>']))

/-- The text of nodes. -/
def writtenAll : List Node → List Char
  | [] => []
  | n :: ns => n.written ++ writtenAll ns

end

/-! ### What nodes mean -/

/-- The events of a raw text: none if it is white space. -/
def textEvents (raw : List Char) : List Event :=
  match Text.strip isGap raw with
  | [] => []
  | c :: cs => [.text (c :: cs)]

mutual

/-- The events of a node. -/
def events : Node → List Event
  | element before tag content after =>
    textEvents before ++ .start tag.qualified :: (eventsAll content ++ (textEvents after ++ [.stop]))
  | empty before tag => textEvents before ++ [.empty tag.qualified]
  | comment before _ => textEvents before
  | instruction before _ => textEvents before
  | verbatim before body => textEvents before ++ [.verbatim body]

/-- The events of nodes. -/
def eventsAll : List Node → List Event
  | [] => []
  | n :: ns => n.events ++ eventsAll ns

end

/-- What a raw text stands for. -/
def textOf (raw : List Char) : List Char :=
  match resolve (Text.strip isGap raw) with
  | .ok cs => cs
  | .error _ => []

/-- What a node adds to the text of the element around it. -/
def said : Node → List Char
  | verbatim before body => textOf before ++ body
  | n => textOf n.before

mutual

/-- The element that a node is, if it is one. -/
def tree? : Node → Option Element
  | element _ tag content after =>
    some (.mk (String.ofList tag.name) (String.ofList (content.flatMap said ++ textOf after))
      (trees content))
  | empty _ tag => some (.mk (String.ofList tag.name) "" [])
  | comment .. => none
  | instruction .. => none
  | verbatim .. => none

/-- The elements among nodes. -/
def trees : List Node → List Element
  | [] => []
  | n :: ns => n.tree?.toList ++ trees ns

end

theorem trees_eq_filterMap (ns : List Node) : trees ns = ns.filterMap tree? := by
  induction ns with
  | nil => rw [trees, List.filterMap_nil]
  | cons n ns ih =>
    rw [trees, ih]
    cases h : n.tree? <;> simp [h]

/-! ### Soundness -/

/-- A raw text that can be read: it opens no tag, and its references can be resolved. -/
def Readable (raw : List Char) : Prop :=
  '<' ∉ raw ∧ ∃ cs, resolve (Text.strip isGap raw) = .ok cs

instance (raw : List Char) : Decidable (Readable raw) :=
  decidable_of_iff ('<' ∉ raw ∧ (resolve (Text.strip isGap raw)).toOption.isSome = true) (by
    unfold Readable
    cases resolve (Text.strip isGap raw) <;> simp [Except.toOption])

/-- White space is readable, and stands for nothing. -/
theorem strip_of_gap {raw : List Char} (h : ∀ c ∈ raw, isGap c = true) :
    Text.strip isGap raw = [] := by
  have hdrop : raw.dropWhile isGap = [] := by
    rw [List.dropWhile_eq_nil_iff]
    exact h
  rw [Text.strip, hdrop]
  rfl

theorem not_mem_of_gap {raw : List Char} (h : ∀ c ∈ raw, isGap c = true) : '<' ∉ raw := by
  intro hc
  exact absurd (h _ hc) (by decide)

theorem readable_of_gap {raw : List Char} (h : ∀ c ∈ raw, isGap c = true) : Readable raw :=
  ⟨not_mem_of_gap h, [], by rw [strip_of_gap h]; rfl⟩

/-- A node that can be read back. -/
inductive Sound : Node → Prop
  | element {before : List Char} {tag : Tag} {content : List Node} {after : List Char}
      (hbefore : Readable before) (htag : tag.Sound) (hcontent : ∀ n ∈ content, Sound n)
      (hafter : Readable after) : Sound (.element before tag content after)
  | empty {before : List Char} {tag : Tag} (hbefore : Readable before) (htag : tag.Sound) :
      Sound (.empty before tag)
  /-- A comment does not contain the mark that ends it. -/
  | comment {before body : List Char} (hbefore : Readable before)
      (hbody : ¬['-', '-', '>'] <:+: body) : Sound (.comment before body)
  /-- An instruction is not empty and has no closing bracket. -/
  | instruction {before body : List Char} (hbefore : Readable before) (hne : body ≠ [])
      (hbody : '>' ∉ body) : Sound (.instruction before body)
  /-- A verbatim section does not contain the mark that ends it. -/
  | verbatim {before body : List Char} (hbefore : Readable before)
      (hbody : ¬[']', ']', '>'] <:+: body) : Sound (.verbatim before body)

mutual

/-- Whether a node can be read back. -/
def isSound : Node → Bool
  | element before tag content after =>
    Readable before ∧ tag.Sound ∧ isSoundAll content = true ∧ Readable after
  | empty before tag => Readable before ∧ tag.Sound
  | comment before body => Readable before ∧ ¬['-', '-', '>'] <:+: body
  | instruction before body => Readable before ∧ body ≠ [] ∧ '>' ∉ body
  | verbatim before body => Readable before ∧ ¬[']', ']', '>'] <:+: body

/-- Whether nodes can be read back. -/
def isSoundAll : List Node → Bool
  | [] => true
  | n :: ns => n.isSound && isSoundAll ns

end

mutual

theorem isSound_iff : (n : Node) → n.isSound = true ↔ n.Sound
  | element before tag content after => by
    rw [isSound, decide_eq_true_eq, isSoundAll_iff content]
    constructor
    · rintro ⟨hbefore, htag, hcontent, hafter⟩
      exact .element hbefore htag hcontent hafter
    · intro h
      cases h with
      | element hbefore htag hcontent hafter => exact ⟨hbefore, htag, hcontent, hafter⟩
  | empty before tag => by
    rw [isSound, decide_eq_true_eq]
    constructor
    · rintro ⟨hbefore, htag⟩
      exact .empty hbefore htag
    · intro h
      cases h with
      | empty hbefore htag => exact ⟨hbefore, htag⟩
  | comment before body => by
    rw [isSound, decide_eq_true_eq]
    constructor
    · rintro ⟨hbefore, hbody⟩
      exact .comment hbefore hbody
    · intro h
      cases h with
      | comment hbefore hbody => exact ⟨hbefore, hbody⟩
  | instruction before body => by
    rw [isSound, decide_eq_true_eq]
    constructor
    · rintro ⟨hbefore, hne, hbody⟩
      exact .instruction hbefore hne hbody
    · intro h
      cases h with
      | instruction hbefore hne hbody => exact ⟨hbefore, hne, hbody⟩
  | verbatim before body => by
    rw [isSound, decide_eq_true_eq]
    constructor
    · rintro ⟨hbefore, hbody⟩
      exact .verbatim hbefore hbody
    · intro h
      cases h with
      | verbatim hbefore hbody => exact ⟨hbefore, hbody⟩

theorem isSoundAll_iff : (ns : List Node) → isSoundAll ns = true ↔ ∀ n ∈ ns, n.Sound
  | [] => by simp [isSoundAll]
  | n :: ns => by
    rw [isSoundAll, Bool.and_eq_true, isSound_iff n, isSoundAll_iff ns, List.forall_mem_cons]

end

instance (n : Node) : Decidable n.Sound :=
  decidable_of_iff _ n.isSound_iff

end Node

end SapMonitor.Markup
