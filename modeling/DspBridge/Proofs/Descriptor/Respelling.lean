import DspBridge.Proofs.Descriptor.Likeness
import DspBridge.Proofs.Descriptor.Revisions
import DspBridge.Proofs.Json.Sorting
import DspBridge.Proofs.Json.Unambiguous

/-!
# Respelled documents

How the objects of a document are spelled does not matter.  What a tree means, a tree that it has
been revised to means as well, and the other way round, up to the order of the members in values;
the words in which a defect is told sort these.  A text is one tree only, so this settles what
becomes of texts.
-/

namespace DspBridge.Descriptor

open Json

/-! ## What is carried over -/

/-- Whatever a tree at a place means, a tree that it is respelled to means something like it. -/
def Carries {α : Type} (place : Place) (Means : Tree → α → Prop) (Like : α → α → Prop) : Prop :=
  ∀ ⦃tree other value⦄, Respelled place tree other → Means tree value →
    ∃ found, Means other found ∧ Like value found

section Carrying

variable {α : Type} {place inner : Place} {Means : Tree → α → Prop} {Like : α → α → Prop}

theorem Respelled.null_iff {tree other : Tree} (respelled : Respelled place tree other) :
    tree = .null ↔ other = .null := by
  cases respelled.compared with
  | same => exact Iff.rfl
  | array | object => exact ⟨nofun, nofun⟩

theorem carries_text : Carries place IsText Eq := by
  intro tree other text respelled meant
  cases respelled.compared with
  | same => exact ⟨text, meant, rfl⟩
  | array | object => cases meant

theorem Carries.optional (carries : Carries place Means Like) :
    Carries place (Optionally Means) (Option.Rel Like) := by
  intro tree other value respelled meant
  cases meant with
  | null =>
      rw [respelled.null_iff.mp rfl]
      exact ⟨none, .null, .none⟩
  | present notNull meant =>
      obtain ⟨found, means, like⟩ := carries respelled meant
      exact ⟨some found, .present (fun null => notNull (respelled.null_iff.mpr null)) means,
        .some like⟩

theorem carries_optional_text : Carries place (Optionally IsText) Eq := by
  intro tree other text respelled meant
  obtain ⟨found, means, like⟩ := carries_text.optional respelled meant
  cases like with
  | none => exact ⟨none, means, rfl⟩
  | some same => exact ⟨_, means, congrArg some same⟩

theorem Carries.items {index : Nat} {items others : List Tree} {values : List α}
    (carries : Carries inner Means Like) (each : RespelledItems place index items others)
    (uniform : ∀ index, place.item index = inner) (meant : List.Forall₂ Means items values) :
    ∃ found, List.Forall₂ Means others found ∧ List.Forall₂ Like values found := by
  induction each generalizing values with
  | nil =>
      cases meant
      exact ⟨[], .nil, .nil⟩
  | cons respelled _ ih =>
      cases meant with
      | cons first rest =>
          rw [uniform] at respelled
          obtain ⟨value, means, like⟩ := carries respelled first
          obtain ⟨found, meansAll, likeAll⟩ := ih rest
          exact ⟨value :: found, .cons means meansAll, .cons like likeAll⟩

/-- What a field of an object means, that field of the other one does. -/
theorem Carries.given {held held' : Option Tree} {missing value : α}
    (carries : Carries place Means Like) (related : Option.Rel (Respelled place) held held')
    (plain : Like missing missing) (given : Given Means missing held value) :
    ∃ found, Given Means missing held' found ∧ Like value found := by
  cases related with
  | none =>
      rw [Given.none_iff] at given
      rw [given]
      exact ⟨missing, .absent, plain⟩
  | some respelled =>
      rw [Given.some_iff] at given
      obtain ⟨found, means, like⟩ := carries respelled given
      exact ⟨found, .present means, like⟩

end Carrying

/-! ## Values -/

section Values

variable {Means : Tree → Json → Prop} {members others : List (List Char × Tree)}
  {values found : List (String × Json)}

theorem normalMembers_eq_map (values : List (String × Json)) :
    normalMembers values = values.map fun entry => (entry.1, entry.2.normal) := by
  induction values with
  | nil => rfl
  | cons entry values ih => rw [normalMembers, ih, List.map_cons]

theorem names_ne {name : String} (absent : ∀ entry ∈ members, ¬ Denotes entry.1 name.toList)
    (meant : List.Forall₂ (IsMember Means) members values) : name ∉ values.map Prod.fst := by
  induction meant with
  | nil => exact List.not_mem_nil
  | cons first _ ih =>
      obtain ⟨front, rest⟩ := List.forall_mem_cons.mp absent
      cases first with
      | named denotes _ =>
          rw [List.map_cons, List.mem_cons, not_or]
          refine ⟨?_, ih rest⟩
          rintro rfl
          exact front denotes

/-- Members with names of their own are values with names of their own. -/
theorem nodup_names (sole : SoleNames members)
    (meant : List.Forall₂ (IsMember Means) members values) : (values.map Prod.fst).Nodup := by
  induction meant with
  | nil => exact List.nodup_nil
  | cons first rest ih =>
      obtain ⟨apart, others⟩ := List.pairwise_cons.mp sole
      cases first with
      | named denotes _ =>
          rw [List.map_cons, List.nodup_cons]
          exact ⟨names_ne (fun entry member => apart entry member _ denotes) rest, ih others⟩

theorem RespelledMembers.carries (carries : Carries .value Means Json.Alike)
    (each : RespelledMembers .value members others)
    (meant : List.Forall₂ (IsMember Means) members values) :
    ∃ found, List.Forall₂ (IsMember Means) others found ∧
      normalMembers values = normalMembers found := by
  induction each generalizing values with
  | nil =>
      cases meant
      exact ⟨[], .nil, rfl⟩
  | cons respelled _ ih =>
      cases meant with
      | cons first rest =>
          cases first with
          | named denotes means =>
              obtain ⟨value, meansToo, alike⟩ := carries (respelled _ denotes) means
              obtain ⟨found, meansAll, same⟩ := ih rest
              have alike : _ = _ := alike
              refine ⟨(_, value) :: found, .cons (.named denotes meansToo) meansAll, ?_⟩
              rw [normalMembers, normalMembers, alike, same]

/-- Members in another order, with values that are alike, make up objects that are alike. -/
theorem Regrouped.carries (regrouped : Regrouped .value members others)
    (carries : Carries .value Means Json.Alike)
    (meant : List.Forall₂ (IsMember Means) members values) :
    ∃ found, List.Forall₂ (IsMember Means) others found ∧
      Json.Alike (.object values) (.object found) := by
  obtain ⟨⟨old, new, lost, added, before, after, each, ignored, extra⟩, sole⟩ := regrouped
  have nothing (entries : List (List Char × Tree))
      (outside : ∀ entry ∈ entries, Place.value.Ignores entry) : entries = [] :=
    List.eq_nil_iff_forall_not_mem.mpr fun entry member => by
      obtain ⟨outside | outside, -⟩ := outside entry member <;> cases outside
  rw [nothing lost ignored, List.append_nil] at before
  rw [nothing added extra, List.append_nil] at after
  obtain ⟨values', meant', perm⟩ := List.perm_comp_forall₂ before.symm meant
  obtain ⟨found', means', same⟩ := each.carries carries meant'
  obtain ⟨found, means, perm'⟩ := List.perm_comp_forall₂ after means'
  have whole : (normalMembers values).Perm (normalMembers found) := by
    simp only [normalMembers_eq_map] at same ⊢
    exact (perm.map _).symm.trans (same ▸ (perm'.map _).symm)
  have names (values : List (String × Json)) :
      (normalMembers values).map Prod.fst = values.map Prod.fst := by
    rw [normalMembers_eq_map, List.map_map]
    rfl
  have distinct : ((normalMembers values).map Prod.fst).Nodup := by
    rcases sole with sole | sole
    · rw [names]
      exact nodup_names sole meant
    · rw [(whole.map Prod.fst).nodup_iff, names]
      exact nodup_names sole means
  refine ⟨found, means, ?_⟩
  rw [Json.Alike, Json.normal, Json.normal, sortMembers_perm whole distinct]

theorem alike_array {items found : List Json} (alike : List.Forall₂ Json.Alike items found) :
    Json.Alike (.array items) (.array found) := by
  have same : normalItems items = normalItems found := by
    induction alike with
    | nil => rfl
    | cons first _ ih =>
        have first : _ = _ := first
        rw [normalItems, normalItems, first, ih]
  rw [Json.Alike, Json.normal, Json.normal, same]

/-- A value that is respelled keeps what it means but for the order of members. -/
theorem carries_value (room : Nat) : Carries .value (IsValue room) Json.Alike := by
  induction room with
  | zero =>
      intro tree other value respelled meant
      cases respelled.compared with
      | same => exact ⟨value, meant, rfl⟩
      | array =>
          cases meant with
          | string text => cases text
          | array never => exact never.elim
      | object =>
          cases meant with
          | string text => cases text
          | object never => exact never.elim
  | succ room ih =>
      intro tree other value respelled meant
      cases respelled.compared with
      | same => exact ⟨value, meant, rfl⟩
      | array each =>
          cases meant with
          | string text => cases text
          | array meant =>
              obtain ⟨found, means, alike⟩ := ih.items each (fun _ => rfl) meant
              exact ⟨.array found, .array means, alike_array alike⟩
      | object regrouped =>
          cases meant with
          | string text => cases text
          | object meant =>
              obtain ⟨found, means, alike⟩ := regrouped.carries ih meant
              exact ⟨.object found, .object means, alike⟩

end Values

/-! ## Nodes -/

theorem related_some {place : Place} {held held' : Option Tree} {tree : Tree}
    (related : Option.Rel (Respelled place) held held') (found : held = some tree) :
    ∃ other, held' = some other ∧ Respelled place tree other := by
  subst found
  cases related with
  | some respelled => exact ⟨_, rfl, respelled⟩

section Nodes

variable {IsItems : Tree → List Draft → Prop} {IsNumber : Tree → Json → Prop}
  (carriesItems : Carries .nodes IsItems (List.Forall₂ Draft.Alike))
  (carriesNumber : Carries .value IsNumber Json.Alike)

include carriesItems carriesNumber

theorem carries_nodeElements {items others : List Tree} {draft : Draft}
    (each : RespelledItems .node 0 items others)
    (meant : IsNodeElements IsItems IsNumber items draft) :
    ∃ found, IsNodeElements IsItems IsNumber others found ∧ draft.Alike found := by
  cases meant with
  | all kind label items min max init step =>
      rcases each with _ | ⟨kinds, _ | ⟨labels, _ | ⟨itemses, _ | ⟨mins, _ | ⟨maxs, _ | ⟨inits,
        _ | ⟨steps, ⟨⟩⟩⟩⟩⟩⟩⟩⟩
      have number := carriesNumber.optional
      obtain ⟨_, meansKind, rfl⟩ := carries_text kinds kind
      obtain ⟨_, meansLabel, rfl⟩ := carries_text labels label
      obtain ⟨items', meansItems, alikeItems⟩ := carriesItems.optional itemses items
      obtain ⟨min', meansMin, alikeMin⟩ := number mins min
      obtain ⟨max', meansMax, alikeMax⟩ := number maxs max
      obtain ⟨init', meansInit, alikeInit⟩ := number inits init
      obtain ⟨step', meansStep, alikeStep⟩ := number steps step
      exact ⟨_, .all meansKind meansLabel meansItems meansMin meansMax meansInit meansStep,
        .fields alikeItems alikeMin alikeMax alikeInit alikeStep⟩

theorem carries_nodeMembers {members others : List (List Char × Tree)} {draft : Draft}
    (regrouped : Regrouped .node members others)
    (meant : IsNodeMembers IsItems IsNumber members draft) :
    ∃ found, IsNodeMembers IsItems IsNumber others found ∧ draft.Alike found := by
  obtain ⟨kind, label, _, _, _, _, _⟩ := draft
  cases meant with
  | named spelled once type labelled items min max init step =>
      obtain ⟨renamed, spelledToo, onceToo, fields⟩ := regrouped.fields spelled once
      obtain ⟨types, labels, itemses, mins, maxs, inits, steps⟩ := forall_nodeFields.mp fields
      have number := carriesNumber.optional
      obtain ⟨tree, held, typed⟩ := type
      obtain ⟨other, heldToo, respelled⟩ := related_some types held
      obtain ⟨_, meansKind, rfl⟩ := carries_text respelled typed
      obtain ⟨_, meansLabel, rfl⟩ := carries_text.given labels rfl labelled
      obtain ⟨items', meansItems, alikeItems⟩ := carriesItems.optional.given itemses .none items
      obtain ⟨min', meansMin, alikeMin⟩ := number.given mins .none min
      obtain ⟨max', meansMax, alikeMax⟩ := number.given maxs .none max
      obtain ⟨init', meansInit, alikeInit⟩ := number.given inits .none init
      obtain ⟨step', meansStep, alikeStep⟩ := number.given steps .none step
      have means : IsNodeMembers IsItems IsNumber others
          ⟨kind, label, items', min', max', init', step'⟩ :=
        .named spelledToo onceToo ⟨other, heldToo, meansKind⟩ meansLabel meansItems meansMin
          meansMax meansInit meansStep
      exact ⟨_, means, .fields alikeItems alikeMin alikeMax alikeInit alikeStep⟩

end Nodes

/-- A node that is respelled is like what it was, and so is a list of nodes. -/
theorem carries_node (room : Nat) : Carries .node (IsNode room) Draft.Alike ∧
    Carries .nodes (IsNodes room) (List.Forall₂ Draft.Alike) := by
  induction room with
  | zero =>
      constructor
      · rintro tree other draft - (never | never) <;> exact never.elim
      · rintro tree other drafts - ⟨never⟩
        exact never.elim
  | succ room ih =>
      obtain ⟨node, nodes⟩ := ih
      constructor
      · intro tree other draft respelled meant
        cases respelled.compared with
        | same => exact ⟨draft, meant, .refl draft⟩
        | array each =>
            cases meant with
            | array meant =>
                obtain ⟨found, means, alike⟩ :=
                  carries_nodeElements nodes (carries_value room) each meant
                exact ⟨found, .array means, alike⟩
        | object regrouped =>
            cases meant with
            | object meant =>
                obtain ⟨found, means, alike⟩ :=
                  carries_nodeMembers nodes (carries_value room) regrouped meant
                exact ⟨found, .object means, alike⟩
      · intro tree other drafts respelled meant
        cases respelled.compared with
        | same => exact ⟨drafts, meant, Draft.Alike.reflAll drafts⟩
        | array each =>
            cases meant with
            | array meant =>
                obtain ⟨found, means, alike⟩ := node.items each (fun _ => rfl) meant
                exact ⟨found, .array means, alike⟩
        | object => cases meant

/-! ## Documents -/

theorem carries_outline {AreNodes : Tree → List Draft → Prop}
    (carriesNodes : Carries .nodes AreNodes (List.Forall₂ Draft.Alike)) :
    Carries .document (IsRecord (IsOutlineElements AreNodes) (IsOutlineMembers AreNodes))
      Outline.Alike := by
  intro tree other outline respelled meant
  cases respelled.compared with
  | same => exact ⟨outline, meant, .refl outline⟩
  | array each =>
      cases meant with
      | array meant =>
          cases meant with
          | all named ui =>
              rcases each with _ | ⟨names, _ | ⟨uis, ⟨⟩⟩⟩
              obtain ⟨_, meansName, rfl⟩ := carries_optional_text names named
              obtain ⟨found, meansNodes, alike⟩ := carriesNodes.optional uis ui
              exact ⟨⟨_, found⟩, .array (.all meansName meansNodes), rfl, alike⟩
  | object regrouped =>
      cases meant with
      | object meant =>
          cases meant with
          | named spelled once named ui =>
              obtain ⟨renamed, spelledToo, onceToo, fields⟩ := regrouped.fields spelled once
              obtain ⟨names, uis⟩ := forall_outlineFields.mp fields
              obtain ⟨_, meansName, same⟩ := carries_optional_text.given names rfl named
              obtain ⟨found, meansNodes, alike⟩ := carriesNodes.optional.given uis .none ui
              exact ⟨⟨_, found⟩, .object (.named spelledToo onceToo meansName meansNodes), same,
                alike⟩

/-- A document that is typed stays typed, and what it is then is like what it was. -/
theorem Respelled.decodes {text other : String} {tree edited : Tree} {outline : Outline}
    (respelled : Respelled .document tree edited) (stands : Stands text tree)
    (spelled : Stands other edited) (parsed : Outline.parse text = .ok outline) :
    ∃ found, Outline.parse other = .ok found ∧ outline.Alike found := by
  obtain ⟨held, rest, leads, blank, meant⟩ := Outline.parse_eq_ok_iff.mp parsed
  obtain rfl := stands.unique ⟨rest, leads, blank⟩
  obtain ⟨found, means, alike⟩ := carries_outline (carries_node _).2 respelled meant
  obtain ⟨left, leadsToo, blankToo⟩ := spelled
  exact ⟨found, Outline.parse_eq_ok_iff.mpr ⟨edited, left, leadsToo, blankToo, means⟩, alike⟩

/-- How the objects of a document are spelled does not matter for what it is found to be. -/
theorem parse_respelled {text other : String} {tree edited : Tree} (stands : Stands text tree)
    (distinct : tree.Distinct) (revised : Revised .document tree edited)
    (spelled : Stands other edited) :
    SameOutcome (Descriptor.parse text) (Descriptor.parse other) := by
  have respelled : Respelled .document tree edited := .inl ⟨revised, distinct⟩
  cases parsed : Outline.parse text with
  | ok outline =>
      obtain ⟨found, decoded, alike⟩ := respelled.decodes stands spelled parsed
      rw [Descriptor.parse, Descriptor.parse, parsed, decoded]
      exact alike.check
  | error error =>
      cases parsed' : Outline.parse other with
      | ok outline =>
          obtain ⟨found, decoded, -⟩ := Respelled.decodes (Or.symm respelled) spelled stands parsed'
          rw [parsed] at decoded
          cases decoded
      | error error =>
          rw [Descriptor.parse, Descriptor.parse, parsed, parsed']
          exact .json

/-! ## An entry spelled in two ways -/

/-- An entry with an object for its least value. -/
def entryText : String :=
  "\x7b\"ui\":[\x7b\"type\":\"nentry\",\"min\":\x7b\"x\":true,\"y\":null\x7d\x7d]," ++
    "\"name\":\"n\"\x7d"

/-- The same entry with its members in another order, and with one that is not read, which holds a
surrogate without its partner. -/
def respelledText : String :=
  "\n\x7b\"name\":\"n\",\"ui\":[\x7b\"min\":\x7b\"y\":null,\"x\":true\x7d,\"tint\":\"\\udead\"," ++
    "\"type\":\"nentry\"\x7d]\x7d\n"

/-- What both texts give the entry for its kind. -/
def kindMember : List Char × Tree := ("type".toList, .string "nentry".toList)

/-- What both texts give the document for its name. -/
def nameMember : List Char × Tree := ("name".toList, .string "n".toList)

/-- What only the second text gives the entry. -/
def tintMember : List Char × Tree := ("tint".toList, .string "\\udead".toList)

/-- The first text as a tree. -/
def entryTree : Tree :=
  .object [("ui".toList, .array [.object [kindMember,
    ("min".toList, .object [("x".toList, .bool true), ("y".toList, .null)])]]), nameMember]

/-- The second text as a tree. -/
def respelledTree : Tree :=
  .object [nameMember, ("ui".toList, .array [.object [
    ("min".toList, .object [("y".toList, .null), ("x".toList, .bool true)]), tintMember,
    kindMember]])]

section Entry

variable {first : Bool} {name text more : List Char} {tree : Tree}
  {members : List (List Char × Tree)}

/-- A row of members that are spelled without blanks. -/
theorem row_plain (plain : Plain name) (written : tree.Bare text)
    (row : Row '\x7d' (Member Tree.Bare) false members more) :
    Row '\x7d' (Member Tree.Bare) first ((name, tree) :: members)
      (separator first ++ ('"' :: (name ++ '"' :: ':' :: text) ++ more)) := by
  have member := @Member.named _ name [] [] text tree (denotes_plain plain).isBody blanks_nil
    blanks_nil written
  exact .entry blanks_nil blanks_nil member row

/-- Members with plain names that differ have names of their own. -/
theorem soleNames_plain (plain : ∀ entry ∈ members, Plain entry.1)
    (distinct : (members.map Prod.fst).Nodup) : SoleNames members := by
  rw [List.Nodup, List.pairwise_map] at distinct
  refine distinct.imp_of_mem ?_
  intro first second among too differ name denotes denotesToo
  have same := (denotes_plain (plain first among)).unique denotes
  exact differ (same.trans ((denotes_plain (plain second too)).unique denotesToo).symm)

theorem stands_entry : Stands entryText entryTree := by
  have kind := Tree.Bare.string (denotes_plain (by simp [Plain] : Plain "nentry".toList)).isBody
  have name := Tree.Bare.string (denotes_plain (by simp [Plain] : Plain "n".toList)).isBody
  have limits := Tree.Bare.object (row_plain (by simp [Plain] : Plain "x".toList) .yes
    (row_plain (by simp [Plain] : Plain "y".toList) .null (.close blanks_nil)))
  have entry := Tree.Bare.object (row_plain (by simp [Plain] : Plain "type".toList) kind
    (row_plain (by simp [Plain] : Plain "min".toList) limits (.close blanks_nil)))
  have nodes := Tree.Bare.array (.entry blanks_nil blanks_nil entry (.close blanks_nil))
  have document := Tree.Bare.object (row_plain (by simp [Plain] : Plain "ui".toList) nodes
    (row_plain (by simp [Plain] : Plain "name".toList) name (.close blanks_nil)))
  exact ⟨[], ⟨[], _, blanks_nil, document, rfl⟩, blanks_nil⟩

theorem stands_respelled : Stands respelledText respelledTree := by
  have kind := Tree.Bare.string (denotes_plain (by simp [Plain] : Plain "nentry".toList)).isBody
  have name := Tree.Bare.string (denotes_plain (by simp [Plain] : Plain "n".toList)).isBody
  have tint : Tree.Bare (.string ['\\', 'u', 'd', 'e', 'a', 'd']) _ := .string (.unit rfl .empty)
  have limits := Tree.Bare.object (row_plain (by simp [Plain] : Plain "y".toList) .null
    (row_plain (by simp [Plain] : Plain "x".toList) .yes (.close blanks_nil)))
  have entry := Tree.Bare.object (row_plain (by simp [Plain] : Plain "min".toList) limits
    (row_plain (by simp [Plain] : Plain "tint".toList) tint
      (row_plain (by simp [Plain] : Plain "type".toList) kind (.close blanks_nil))))
  have nodes := Tree.Bare.array (.entry blanks_nil blanks_nil entry (.close blanks_nil))
  have document := Tree.Bare.object (row_plain (by simp [Plain] : Plain "name".toList) name
    (row_plain (by simp [Plain] : Plain "ui".toList) nodes (.close blanks_nil)))
  have blank : Blanks ['\n'] := by simp [Blanks, Reader.isSpace]
  exact ⟨['\n'], ⟨['\n'], _, blank, document, rfl⟩, blank⟩

theorem distinct_entry : entryTree.Distinct := by
  have limits : Tree.Distinct (.object [("x".toList, .bool true), ("y".toList, .null)]) :=
    .object (soleNames_plain (by simp [Plain]) (by simp))
      (List.forall_mem_cons.mpr ⟨.bool, List.forall_mem_singleton.mpr .null⟩)
  have entry : Tree.Distinct (.object [kindMember, ("min".toList, .object [("x".toList, .bool true),
      ("y".toList, .null)])]) :=
    .object (soleNames_plain (by simp [Plain, kindMember]) (by simp [kindMember]))
      (List.forall_mem_cons.mpr ⟨.string, List.forall_mem_singleton.mpr limits⟩)
  have nodes := Tree.Distinct.array (List.forall_mem_singleton.mpr entry)
  exact .object (soleNames_plain (by simp [Plain, nameMember]) (by simp [nameMember]))
    (List.forall_mem_cons.mpr ⟨nodes, List.forall_mem_singleton.mpr .string⟩)

theorem revised_entry : Revised .document entryTree respelledTree := by
  have unread : Place.node.Ignores tintMember :=
    ⟨.inr rfl, "tint", denotes_plain (by simp [Plain, tintMember]), by decide⟩
  refine .object (.cons (fun text denotes => ?_) (.cons (fun _ _ => .same) .nil))
    (List.forall_mem_nil _) (.swap _ _ [])
  obtain rfl : text = "ui" :=
    String.toList_injective (denotes.unique (denotes_plain (by simp [Plain])))
  refine .array (.cons ?_ .nil)
  refine .object (.cons (fun _ _ => .same) (.cons (fun text denotes => ?_) .nil))
    (List.forall_mem_singleton.mpr unread) (@List.perm_append_comm _ [kindMember] [_, tintMember])
  exact .object (.cons (fun _ _ => .same) (.cons (fun _ _ => .same) .nil)) (List.forall_mem_nil _)
    (.swap _ _ [])

end Entry

theorem parse_respelled_entry :
    Stands entryText entryTree ∧ entryTree.Distinct ∧ Revised .document entryTree respelledTree ∧
      Stands respelledText respelledTree ∧
      SameOutcome (Descriptor.parse entryText) (Descriptor.parse respelledText) :=
  ⟨stands_entry, distinct_entry, revised_entry, stands_respelled,
    parse_respelled stands_entry distinct_entry revised_entry stands_respelled⟩

set_option maxRecDepth 20000 in
/-- The defect of the entry is told with the members of its least value in order. -/
example : Descriptor.parse respelledText = .error (.node (.notANumber "" .min
    (.object [("y", .null), ("x", .bool true)]))) := by cbv

end DspBridge.Descriptor
