import DspBridge.Descriptor.Draft
import Mathlib.Data.List.Forall2

/-!
# Checking drafts

Which defect a draft is rejected for.  The nodes of a document are walked in order, a group before
its items, and what stands below other nodes is not looked at; the numbers of a range are looked at
in an order of their own.  The first defect on this walk is the one that is reported, and without
one the tree of the drafts becomes a tree of nodes of the same shape.
-/

namespace DspBridge.Descriptor

/-! ## The first flaw -/

section First

variable {α β γ δ : Type} {Bad : α → β → Prop} {places others : List α} {flaw : β}

/-- The first of some places that has a flaw has this one. -/
inductive First (Bad : α → β → Prop) : (places : List α) → (flaw : β) → Prop where
  | here {place : α} {places : List α} {flaw : β} :
      Bad place flaw → First Bad (place :: places) flaw
  | later {place : α} {places : List α} {flaw : β} :
      (∀ other, ¬ Bad place other) → First Bad places flaw → First Bad (place :: places) flaw

/-- No place has a flaw. -/
def Flawless (Bad : α → β → Prop) (places : List α) : Prop :=
  ∀ place ∈ places, ∀ flaw, ¬ Bad place flaw

theorem First.not_flawless (first : First Bad places flaw) : ¬ Flawless Bad places := by
  intro flawless
  induction first with
  | here bad => exact flawless _ List.mem_cons_self _ bad
  | later _ _ ih => exact ih fun place member => flawless place (List.mem_cons_of_mem _ member)

theorem First.append_right (first : First Bad places flaw) :
    First Bad (places ++ others) flaw := by
  induction first with
  | here bad => exact .here bad
  | later fine _ ih => exact .later fine ih

theorem First.append_left (flawless : Flawless Bad places) (first : First Bad others flaw) :
    First Bad (places ++ others) flaw := by
  induction places with
  | nil => exact first
  | cons place places ih =>
      obtain ⟨fine, rest⟩ := List.forall_mem_cons.mp flawless
      exact .later fine (ih rest)

/-- The result of a search for flaws: the first flaw, or a good value if there is none. -/
inductive Searched (Bad : α → β → Prop) (Good : γ → Prop) (places : List α) :
    Except β γ → Prop where
  | flawless {value : γ} :
      Flawless Bad places → Good value → Searched Bad Good places (.ok value)
  | flawed {flaw : β} : First Bad places flaw → Searched Bad Good places (.error flaw)

/-- A search that goes on at other places. -/
theorem Searched.bind {Good : γ → Prop} {Better : δ → Prop} {result : Except β γ}
    {next : γ → Except β δ} (searched : Searched Bad Good places result)
    (further : ∀ value, Good value → Searched Bad Better others (next value)) :
    Searched Bad Better (places ++ others) (result >>= next) := by
  cases searched with
  | flawed first => exact .flawed first.append_right
  | @flawless value fine good =>
      have rest := further value good
      change Searched Bad Better (places ++ others) (next value)
      generalize next value = last at rest
      cases rest with
      | flawed first => exact .flawed (first.append_left fine)
      | flawless fineToo better =>
          exact .flawless (List.forall_mem_append.mpr ⟨fine, fineToo⟩) better

/-- A search that begins at a place without a flaw. -/
theorem Searched.cons {Good : γ → Prop} {result : Except β γ} {place : α}
    (fine : ∀ flaw, ¬ Bad place flaw) (searched : Searched Bad Good places result) :
    Searched Bad Good (place :: places) result := by
  cases searched with
  | flawed first => exact .flawed (.later fine first)
  | flawless rest good => exact .flawless (List.forall_mem_cons.mpr ⟨fine, rest⟩) good

/-- A search whose value is changed at the end. -/
theorem Searched.map {Good : γ → Prop} {Better : δ → Prop} {result : Except β γ} {change : γ → δ}
    (searched : Searched Bad Good places result)
    (good : ∀ value, Good value → Better (change value)) :
    Searched Bad Better places (change <$> result) := by
  cases searched with
  | flawed first => exact .flawed first
  | flawless fine old => exact .flawless fine (good _ old)

end First

/-! ## Kinds and their names -/

/-- A kind is found under a name if that is how it is spelled. -/
theorem find?_spelling_eq_some_iff {κ : Type} {spelling : κ → String} {kinds : List κ}
    (known : ∀ kind, kinds.find? (spelling · == spelling kind) = some kind) {name : String}
    {kind : κ} : kinds.find? (spelling · == name) = some kind ↔ name = spelling kind := by
  constructor
  · intro found
    have spelled := List.find?_some found
    exact (eq_of_beq spelled).symm
  · rintro rfl
    exact known kind

theorem GroupKind.ofName?_eq_some_iff {name : String} {kind : GroupKind} :
    GroupKind.ofName? name = some kind ↔ name = kind.name :=
  find?_spelling_eq_some_iff fun kind => by cases kind <;> rfl

theorem RangeKind.ofName?_eq_some_iff {name : String} {kind : RangeKind} :
    RangeKind.ofName? name = some kind ↔ name = kind.name :=
  find?_spelling_eq_some_iff fun kind => by cases kind <;> rfl

theorem SwitchKind.ofName?_eq_some_iff {name : String} {kind : SwitchKind} :
    SwitchKind.ofName? name = some kind ↔ name = kind.name :=
  find?_spelling_eq_some_iff fun kind => by cases kind <;> rfl

theorem GroupKind.name_ne_range (group : GroupKind) (range : RangeKind) :
    group.name ≠ range.name := by
  cases group <;> cases range <;> decide

/-! ## Flaws and nodes of drafts -/

/-- A number of a range. -/
def Range.quantity (range : Range) : RangeKey → Quantity
  | .min => range.min
  | .max => range.max
  | .init => range.init
  | .step => range.step

namespace Draft

/-- A number of a range that is missing, or something else. -/
inductive BadNumber (draft : Draft) : RangeKey → Defect → Prop where
  | missing {key : RangeKey} :
      draft.number? key = none → BadNumber draft key (.missingNumber draft.label key)
  | unreadable {key : RangeKey} {value : Json} :
      draft.number? key = some value → Quantity.ofJson? value = none →
      BadNumber draft key (.notANumber draft.label key value)

/-- A group without items, or a range, by the first of its numbers that is bad. -/
inductive Bad : Draft → Defect → Prop where
  | group {draft : Draft} {kind : GroupKind} :
      draft.kind = kind.name → draft.items = none → Bad draft (.noItems kind draft.label)
  | range {draft : Draft} {kind : RangeKind} {defect : Defect} :
      draft.kind = kind.name → First draft.BadNumber [.min, .max, .init, .step] defect →
      Bad draft defect

mutual

/-- The drafts inside a draft in document order; only those in groups are looked at. -/
def inside : Draft → List Draft
  | ⟨kind, _, items, _, _, _, _⟩ =>
      match GroupKind.ofName? kind with
      | none => []
      | some _ =>
          match items with
          | none => []
          | some items => walk items

/-- Some drafts, each before those inside it. -/
def walk : List Draft → List Draft
  | [] => []
  | draft :: rest => (draft :: draft.inside) ++ walk rest

end

/-- The node that a draft becomes: labels and names of kinds stay, and so do the items of a group
and their order; a number of a range is what its value is read as. -/
inductive Becomes : Draft → Node → Prop where
  | group {draft : Draft} {kind : GroupKind} {items : List Draft} {nodes : List Node} :
      draft.kind = kind.name → draft.items = some items → List.Forall₂ Becomes items nodes →
      Becomes draft (.group kind draft.label nodes)
  | range {draft : Draft} {kind : RangeKind} {range : Range} :
      draft.kind = kind.name →
      (∀ key, (draft.number? key).bind Quantity.ofJson? = some (range.quantity key)) →
      Becomes draft (.range kind draft.label range)
  | switch {draft : Draft} {kind : SwitchKind} :
      draft.kind = kind.name → Becomes draft (.switch kind draft.label)
  | other {draft : Draft} :
      (∀ kind : GroupKind, draft.kind ≠ kind.name) → (∀ kind : RangeKind, draft.kind ≠ kind.name) →
      (∀ kind : SwitchKind, draft.kind ≠ kind.name) → Becomes draft (.other draft.kind)

/-! ## Checking finds the first flaw -/

theorem searched_quantity (draft : Draft) (key : RangeKey) :
    Searched draft.BadNumber
      (fun quantity => (draft.number? key).bind Quantity.ofJson? = some quantity) [key]
      (draft.quantity key) := by
  rw [quantity]
  cases held : draft.number? key with
  | none => exact .flawed (.here (.missing held))
  | some value =>
      dsimp only
      cases read : Quantity.ofJson? value with
      | none => exact .flawed (.here (.unreadable held read))
      | some quantity =>
          refine .flawless ?_ read
          intro place member flaw bad
          obtain rfl := List.mem_singleton.mp member
          cases bad with
          | missing none => rw [held] at none; cases none
          | unreadable some unread =>
              rw [held, Option.some.injEq] at some
              rw [← some, read] at unread
              cases unread

theorem searched_range (draft : Draft) :
    Searched draft.BadNumber
      (fun range : Range =>
        ∀ key, (draft.number? key).bind Quantity.ofJson? = some (range.quantity key))
      [.min, .max, .init, .step] draft.range := by
  rw [range]
  refine (draft.searched_quantity .min).bind fun min readMin => ?_
  refine (draft.searched_quantity .max).bind fun max readMax => ?_
  refine (draft.searched_quantity .init).bind fun init readInit => ?_
  refine (draft.searched_quantity .step).map fun step readStep key => ?_
  cases key with
  | min => exact readMin
  | max => exact readMax
  | init => exact readInit
  | step => exact readStep

/-- A draft that is no group is looked at alone. -/
theorem searched_leaf {draft : Draft} (single : GroupKind.ofName? draft.kind = none) :
    Searched Bad draft.Becomes [draft] draft.leaf := by
  have noGroup (kind : GroupKind) : draft.kind ≠ kind.name := by
    intro named
    rw [GroupKind.ofName?_eq_some_iff.mpr named] at single
    cases single
  have flawless (noRange : ∀ kind : RangeKind, draft.kind ≠ kind.name) : Flawless Bad [draft] := by
    intro place member flaw bad
    obtain rfl := List.mem_singleton.mp member
    cases bad with
    | group named => exact noGroup _ named
    | range named => exact noRange _ named
  rw [leaf]
  cases ranged : RangeKind.ofName? draft.kind with
  | some kind =>
      have named := RangeKind.ofName?_eq_some_iff.mp ranged
      have searched := draft.searched_range
      dsimp only
      generalize draft.range = result at searched
      cases searched with
      | flawed first => exact .flawed (.here (.range named first))
      | flawless fine good =>
          refine .flawless ?_ (.range named good)
          intro place member flaw bad
          obtain rfl := List.mem_singleton.mp member
          cases bad with
          | group other => exact noGroup _ other
          | range _ first => exact first.not_flawless fine
  | none =>
      have noRange (kind : RangeKind) : draft.kind ≠ kind.name := by
        intro named
        rw [RangeKind.ofName?_eq_some_iff.mpr named] at ranged
        cases ranged
      dsimp only
      cases switched : SwitchKind.ofName? draft.kind with
      | some kind =>
          exact .flawless (flawless noRange) (.switch (SwitchKind.ofName?_eq_some_iff.mp switched))
      | none =>
          refine .flawless (flawless noRange) (.other noGroup noRange ?_)
          intro kind named
          rw [SwitchKind.ofName?_eq_some_iff.mpr named] at switched
          cases switched

mutual

theorem searched_check (draft : Draft) :
    Searched Bad draft.Becomes (draft :: draft.inside) draft.check := by
  match draft with
  | ⟨kind, label, items, min, max, init, step⟩ =>
      rw [inside.eq_def, check.eq_def]
      dsimp only
      cases grouped : GroupKind.ofName? kind with
      | none => exact searched_leaf grouped
      | some group =>
          have named := GroupKind.ofName?_eq_some_iff.mp grouped
          match items with
          | none => exact .flawed (.here (.group named rfl))
          | some items =>
              refine .cons ?_ ((searched_checkAll items).map fun nodes becomes =>
                .group named rfl becomes)
              intro flaw bad
              cases bad with
              | group _ none => cases none
              | range other => exact group.name_ne_range _ (named.symm.trans other)

theorem searched_checkAll (drafts : List Draft) :
    Searched Bad (List.Forall₂ Becomes drafts) (walk drafts) (checkAll drafts) := by
  match drafts with
  | [] => exact .flawless (fun _ member => nomatch member) .nil
  | draft :: rest =>
      rw [walk, checkAll]
      apply (searched_check draft).bind
      intro node becomes
      apply (searched_checkAll rest).map
      intro nodes others
      exact .cons becomes others

end

end Draft

/-! ## Documents -/

/-- What a document is found to be: without a name, which is looked for first, or without nodes, or
with a first bad node on the walk, or the descriptor of its name and of what its nodes become. -/
inductive Outline.Verdict (outline : Outline) : Except Error Descriptor → Prop where
  | nameless : outline.name = none → Verdict outline (.error (.missingField .name))
  | bare {name : String} : outline.name = some name → outline.nodes = none →
      Verdict outline (.error (.missingField .ui))
  | bad {name : String} {drafts : List Draft} {defect : Defect} : outline.name = some name →
      outline.nodes = some drafts → First Draft.Bad (Draft.walk drafts) defect →
      Verdict outline (.error (.node defect))
  | good {name : String} {drafts : List Draft} {nodes : List Node} : outline.name = some name →
      outline.nodes = some drafts → Flawless Draft.Bad (Draft.walk drafts) →
      List.Forall₂ Draft.Becomes drafts nodes → Verdict outline (.ok ⟨name, nodes⟩)

theorem Outline.verdict_check (outline : Outline) : outline.Verdict outline.check := by
  obtain ⟨name?, drafts?⟩ := outline
  cases name? with
  | none => exact .nameless rfl
  | some name =>
      cases drafts? with
      | none => exact .bare rfl rfl
      | some drafts =>
          have searched := Draft.searched_checkAll drafts
          rw [check]
          dsimp only
          generalize Draft.checkAll drafts = result at searched ⊢
          cases searched with
          | flawed first => exact .bad rfl rfl first
          | flawless fine becomes => exact .good rfl rfl fine becomes

end DspBridge.Descriptor
