import DspBridge.Proofs.Descriptor.Decoding

/-!
# Revisions of documents

What may be done to the objects of a document: their members may be put in any order, and members
that are not read may be added to the document and to its nodes.  Where a tree stands in a document
settles which members are read there, so revisions go along with places.
-/

namespace DspBridge

namespace Json

/-- No two members of one object have the same name, however that is spelled. -/
def SoleNames (members : List (List Char × Tree)) : Prop :=
  members.Pairwise fun first second => ∀ name, Denotes first.1 name → ¬ Denotes second.1 name

/-- The members of every object in a tree have names of their own. -/
inductive Tree.Distinct : Tree → Prop where
  | null : Distinct .null
  | bool {value : Bool} : Distinct (.bool value)
  | number {literal : List Char} : Distinct (.number literal)
  | string {body : List Char} : Distinct (.string body)
  | array {items : List Tree} : (∀ item ∈ items, item.Distinct) → Distinct (.array items)
  | object {members : List (List Char × Tree)} : SoleNames members →
      (∀ entry ∈ members, entry.2.Distinct) → Distinct (.object members)

end Json

namespace Descriptor

open Json

/-! ## Places -/

/-- Where a tree stands: it is the document, a list of nodes, a node, or another value. -/
inductive Place where
  | document
  | nodes
  | node
  | value
  deriving DecidableEq, Repr

namespace Place

/-- The names of the members that are read. -/
def fields : Place → List String
  | .document => outlineFields
  | .node => nodeFields
  | .nodes | .value => []

/-- Where the value of a member stands. -/
def member : Place → String → Place
  | .document, "ui" | .node, "items" => .nodes
  | _, _ => .value

/-- Where an item of an array stands. -/
def item : Place → Nat → Place
  | .document, 1 | .node, 2 => .nodes
  | .nodes, _ => .node
  | _, _ => .value

/-- A member of the document or of a node that is not read; its name has to be a text. -/
def Ignores (place : Place) (entry : List Char × Tree) : Prop :=
  (place = .document ∨ place = .node) ∧
    ∃ name : String, Denotes entry.1 name.toList ∧ name ∉ place.fields

end Place

/-! ## Revisions -/

mutual

/-- A tree becomes another one when members at any depth are put in another order, and members that
are not read are added. -/
inductive Revised : Place → Tree → Tree → Prop where
  | same {place : Place} {tree : Tree} : Revised place tree tree
  | array {place : Place} {items others : List Tree} :
      RevisedItems place 0 items others → Revised place (.array items) (.array others)
  | object {place : Place} {members kept added others : List (List Char × Tree)} :
      RevisedMembers place members kept → (∀ entry ∈ added, place.Ignores entry) →
      (kept ++ added).Perm others → Revised place (.object members) (.object others)

/-- Items of an array from an index on are revised, each where it stands. -/
inductive RevisedItems : Place → (index : Nat) → List Tree → List Tree → Prop where
  | nil {place : Place} {index : Nat} : RevisedItems place index [] []
  | cons {place : Place} {index : Nat} {tree other : Tree} {items others : List Tree} :
      Revised (place.item index) tree other → RevisedItems place (index + 1) items others →
      RevisedItems place index (tree :: items) (other :: others)

/-- The values of members are revised, each where its name says that it stands. -/
inductive RevisedMembers : Place → List (List Char × Tree) → List (List Char × Tree) → Prop where
  | nil {place : Place} : RevisedMembers place [] []
  | cons {place : Place} {name : List Char} {tree other : Tree}
      {members others : List (List Char × Tree)} :
      (∀ text : String, Denotes name text.toList → Revised (place.member text) tree other) →
      RevisedMembers place members others →
      RevisedMembers place ((name, tree) :: members) ((name, other) :: others)

end

/-! ## There and back -/

/-- One of two trees has been revised to get the other one. -/
def Respelled (place : Place) (tree other : Tree) : Prop :=
  Revised place tree other ∧ tree.Distinct ∨ Revised place other tree ∧ other.Distinct

/-- Items of two arrays from an index on have been revised. -/
inductive RespelledItems (place : Place) : (index : Nat) → List Tree → List Tree → Prop where
  | nil {index : Nat} : RespelledItems place index [] []
  | cons {index : Nat} {tree other : Tree} {items others : List Tree} :
      Respelled (place.item index) tree other → RespelledItems place (index + 1) items others →
      RespelledItems place index (tree :: items) (other :: others)

/-- The values of members of two objects have been revised. -/
inductive RespelledMembers (place : Place) :
    List (List Char × Tree) → List (List Char × Tree) → Prop where
  | nil : RespelledMembers place [] []
  | cons {name : List Char} {tree other : Tree} {members others : List (List Char × Tree)} :
      (∀ text : String, Denotes name text.toList → Respelled (place.member text) tree other) →
      RespelledMembers place members others →
      RespelledMembers place ((name, tree) :: members) ((name, other) :: others)

/-- Two objects have been revised: some members have been kept in each, and no others are read. -/
structure Regrouped (place : Place) (members others : List (List Char × Tree)) : Prop where
  kept : ∃ old new lost added, members.Perm (old ++ lost) ∧ others.Perm (new ++ added) ∧
    RespelledMembers place old new ∧ (∀ entry ∈ lost, place.Ignores entry) ∧
      ∀ entry ∈ added, place.Ignores entry
  sole : SoleNames members ∨ SoleNames others

/-- How two trees compare at the front when one of them has been revised. -/
inductive Compared (place : Place) : Tree → Tree → Prop where
  | same {tree : Tree} : Compared place tree tree
  | array {items others : List Tree} :
      RespelledItems place 0 items others → Compared place (.array items) (.array others)
  | object {members others : List (List Char × Tree)} :
      Regrouped place members others → Compared place (.object members) (.object others)

section Comparing

variable {place : Place} {tree other : Tree} {index : Nat} {items otherItems : List Tree}
  {members others : List (List Char × Tree)}

theorem RespelledItems.symm (each : RespelledItems place index items otherItems) :
    RespelledItems place index otherItems items := by
  induction each with
  | nil => exact .nil
  | cons respelled _ ih => exact .cons (Or.symm respelled) ih

theorem RespelledMembers.symm (each : RespelledMembers place members others) :
    RespelledMembers place others members := by
  induction each with
  | nil => exact .nil
  | cons respelled _ ih => exact .cons (fun text denotes => Or.symm (respelled text denotes)) ih

theorem Compared.symm (compared : Compared place tree other) : Compared place other tree := by
  cases compared with
  | same => exact .same
  | array each => exact .array each.symm
  | object regrouped =>
      obtain ⟨⟨old, new, lost, added, before, after, each, ignored, extra⟩, sole⟩ := regrouped
      exact .object ⟨⟨new, old, added, lost, after, before, each.symm, extra, ignored⟩, sole.symm⟩

theorem RevisedItems.respelled (revised : RevisedItems place index items otherItems)
    (distinct : ∀ item ∈ items, item.Distinct) : RespelledItems place index items otherItems := by
  induction items generalizing index otherItems with
  | nil =>
      cases revised
      exact .nil
  | cons item items ih =>
      obtain ⟨front, rest⟩ := List.forall_mem_cons.mp distinct
      cases revised with
      | cons first others => exact .cons (.inl ⟨first, front⟩) (ih others rest)

theorem RevisedMembers.respelled (revised : RevisedMembers place members others)
    (distinct : ∀ entry ∈ members, entry.2.Distinct) : RespelledMembers place members others := by
  induction members generalizing others with
  | nil =>
      cases revised
      exact .nil
  | cons entry members ih =>
      obtain ⟨front, rest⟩ := List.forall_mem_cons.mp distinct
      cases revised with
      | cons first others =>
          exact .cons (fun text denotes => .inl ⟨first text denotes, front⟩) (ih others rest)

theorem Revised.compared (revised : Revised place tree other) (distinct : tree.Distinct) :
    Compared place tree other := by
  cases revised with
  | same => exact .same
  | array each =>
      cases distinct with
      | array inside => exact .array (each.respelled inside)
  | @object _ members kept added _ each extra order =>
      cases distinct with
      | object sole inside =>
          have whole : members.Perm (members ++ []) := by rw [List.append_nil]
          exact .object ⟨⟨members, kept, [], added, whole, order.symm, each.respelled inside,
            nofun, extra⟩, .inl sole⟩

theorem Respelled.compared (respelled : Respelled place tree other) :
    Compared place tree other := by
  rcases respelled with ⟨revised, distinct⟩ | ⟨revised, distinct⟩
  · exact revised.compared distinct
  · exact (revised.compared distinct).symm

end Comparing

/-! ## Members that are read -/

section Fields

variable {place : Place} {members others old new : List (List Char × Tree)}
  {named others' : List (String × Tree)} {known : List String} {name : String}

theorem named_append {extra : List (List Char × Tree)} (spelled : Named (old ++ extra) named) :
    ∃ front back, named = front ++ back ∧ Named old front ∧ Named extra back := by
  induction old generalizing named with
  | nil => exact ⟨[], named, rfl, .nil, spelled⟩
  | cons entry old ih =>
      cases spelled with
      | cons first spelled =>
          obtain ⟨front, back, rfl, spelledFront, spelledBack⟩ := ih spelled
          exact ⟨_ :: front, back, rfl, .cons first spelledFront, spelledBack⟩

/-- Members that are not read have names, but not those of fields. -/
theorem named_ignored {extra : List (List Char × Tree)}
    (ignored : ∀ entry ∈ extra, place.Ignores entry) :
    (∃ named, Named extra named) ∧
      ∀ named, Named extra named → ∀ entry ∈ named, entry.1 ∉ place.fields := by
  induction extra with
  | nil =>
      refine ⟨⟨[], .nil⟩, ?_⟩
      rintro _ ⟨⟩
      exact nofun
  | cons entry extra ih =>
      obtain ⟨⟨-, name, denotes, unknown⟩, rest⟩ := List.forall_mem_cons.mp ignored
      obtain ⟨⟨named, spelled⟩, others⟩ := ih rest
      refine ⟨⟨(name, entry.2) :: named, .cons (.named denotes rfl) spelled⟩, ?_⟩
      rintro _ (_ | ⟨first, spelled⟩)
      cases first with
      | named denotesToo _ =>
          have same := String.toList_injective (denotes.unique denotesToo)
          subst same
          exact List.forall_mem_cons.mpr ⟨unknown, others _ spelled⟩

/-- Members that have been kept keep their names. -/
theorem RespelledMembers.renamed (each : RespelledMembers place old new) (spelled : Named old named) :
    ∃ renamed, Named new renamed ∧ List.Forall₂ (fun entry other =>
      entry.1 = other.1 ∧ Respelled (place.member entry.1) entry.2 other.2) named renamed := by
  induction each generalizing named with
  | nil =>
      cases spelled
      exact ⟨[], .nil, .nil⟩
  | @cons name tree other members others respelled _ ih =>
      cases spelled with
      | cons first spelled =>
          obtain ⟨renamed, spelledToo, alike⟩ := ih spelled
          cases first with
          | @named _ _ text _ denotes same =>
              subst same
              exact ⟨(text, other) :: renamed, .cons (.named denotes rfl) spelledToo,
                .cons ⟨rfl, respelled text denotes⟩ alike⟩

theorem onceEach_cons {entry : String × Tree} (once : OnceEach known (entry :: named)) :
    OnceEach known named ∧ (entry.1 ∈ known → ∀ other ∈ named, other.1 ≠ entry.1) := by
  rw [OnceEach, List.map_cons] at once
  by_cases isKnown : entry.1 ∈ known
  · rw [List.filter_cons_of_pos (List.contains_iff_mem.mpr isKnown), List.nodup_cons] at once
    refine ⟨once.2, fun _ other member same => once.1 ?_⟩
    rw [List.mem_filter, ← same]
    exact ⟨List.mem_map_of_mem member, List.contains_iff_mem.mpr (same ▸ isKnown)⟩
  · have dropped : ¬ known.contains entry.1 = true :=
      fun kept => isKnown (List.contains_iff_mem.mp kept)
    rw [List.filter_cons_of_neg dropped] at once
    exact ⟨once, fun kept => absurd kept isKnown⟩

/-- A field that comes once is found wherever it stands. -/
theorem lookup_eq_some_iff {tree : Tree} (once : OnceEach known named) (isKnown : name ∈ known) :
    named.lookup name = some tree ↔ (name, tree) ∈ named := by
  induction named with
  | nil => simp
  | cons entry named ih =>
      obtain ⟨key, held⟩ := entry
      obtain ⟨rest, alone⟩ := onceEach_cons once
      by_cases same : key = name
      · subst same
        rw [lookup_self, List.mem_cons, Option.some.injEq, Prod.mk.injEq, eq_comm]
        constructor
        · exact fun held => .inl ⟨rfl, held⟩
        · rintro (⟨-, held⟩ | member)
          · exact held
          · exact absurd rfl (alone isKnown (key, tree) member)
      · rw [lookup_other (Ne.symm same), ih rest, List.mem_cons, Prod.mk.injEq]
        exact (or_iff_right fun front => same front.1.symm).symm

theorem onceEach_perm (perm : named.Perm others') :
    OnceEach known named ↔ OnceEach known others' :=
  ((perm.map _).filter _).nodup_iff

theorem lookup_perm (once : OnceEach known named) (isKnown : name ∈ known)
    (perm : named.Perm others') : named.lookup name = others'.lookup name := by
  refine Option.ext fun tree => ?_
  rw [lookup_eq_some_iff once isKnown, lookup_eq_some_iff ((onceEach_perm perm).mp once) isKnown]
  exact perm.mem_iff

theorem onceEach_append {back : List (String × Tree)} (unknown : ∀ entry ∈ back, entry.1 ∉ known) :
    OnceEach known (named ++ back) ↔ OnceEach known named := by
  have dropped : (back.map Prod.fst).filter known.contains = [] := by
    rw [List.filter_eq_nil_iff]
    intro key member kept
    obtain ⟨entry, among, rfl⟩ := List.mem_map.mp member
    exact unknown entry among (List.contains_iff_mem.mp kept)
  rw [OnceEach, OnceEach, List.map_append, List.filter_append, dropped, List.append_nil]

theorem lookup_append_unknown {back : List (String × Tree)}
    (unknown : ∀ entry ∈ back, entry.1 ∉ known) (isKnown : name ∈ known) :
    (named ++ back).lookup name = named.lookup name := by
  have absent : back.lookup name = none :=
    lookup_eq_none_iff.mpr fun entry member same => unknown entry member (same ▸ isKnown)
  rw [List.lookup_append, absent, Option.or_none]

theorem lookup_renamed
    (alike : List.Forall₂ (fun entry other =>
      entry.1 = other.1 ∧ Respelled (place.member entry.1) entry.2 other.2) named others') :
    Option.Rel (Respelled (place.member name)) (named.lookup name) (others'.lookup name) := by
  induction alike with
  | nil => exact .none
  | @cons entry other _ _ first _ ih =>
      obtain ⟨key, tree⟩ := entry
      obtain ⟨_, tree'⟩ := other
      obtain ⟨rfl, respelled⟩ := first
      by_cases same : key = name
      · subst same
        rw [lookup_self, lookup_self]
        exact .some respelled
      · rw [lookup_other (Ne.symm same), lookup_other (Ne.symm same)]
        exact ih

/-- If one of two objects has names for its members, and none of a field twice, then so does the
other, and they have the same fields. -/
theorem Regrouped.fields (regrouped : Regrouped place members others)
    (spelled : Named members named) (once : OnceEach place.fields named) :
    ∃ renamed, Named others renamed ∧ OnceEach place.fields renamed ∧ ∀ name ∈ place.fields,
      Option.Rel (Respelled (place.member name)) (named.lookup name) (renamed.lookup name) := by
  obtain ⟨⟨old, new, lost, added, before, after, each, ignored, extra⟩, -⟩ := regrouped
  obtain ⟨whole, spelledWhole, perm⟩ := List.perm_comp_forall₂ before.symm spelled
  obtain ⟨front, back, rfl, spelledFront, spelledBack⟩ := named_append spelledWhole
  have unknown := (named_ignored ignored).2 back spelledBack
  obtain ⟨front', spelledFront', alike⟩ := each.renamed spelledFront
  obtain ⟨⟨back', spelledBack'⟩, unknowns⟩ := named_ignored extra
  have unknown' := unknowns back' spelledBack'
  obtain ⟨renamed, spelledToo, perm'⟩ :=
    List.perm_comp_forall₂ after (List.rel_append spelledFront' spelledBack')
  have names : front.map Prod.fst = front'.map Prod.fst := by
    rw [← List.forall₂_eq_eq_eq, List.forall₂_map_left_iff, List.forall₂_map_right_iff]
    exact alike.imp fun _ _ same => same.1
  have onceFront : OnceEach place.fields front :=
    (onceEach_append unknown).mp ((onceEach_perm perm).mpr once)
  have onceFront' : OnceEach place.fields front' := by
    rwa [OnceEach, ← names]
  have onceRenamed : OnceEach place.fields renamed :=
    (onceEach_perm perm').mpr ((onceEach_append unknown').mpr onceFront')
  refine ⟨renamed, spelledToo, onceRenamed, fun name isKnown => ?_⟩
  rw [lookup_perm once isKnown perm.symm, lookup_append_unknown unknown isKnown,
    lookup_perm onceRenamed isKnown perm', lookup_append_unknown unknown' isKnown]
  exact lookup_renamed alike

end Fields

end Descriptor
end DspBridge
