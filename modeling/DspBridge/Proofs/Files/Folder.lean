import DspBridge.Files.Folder
import DspBridge.Proofs.Files.Path
import Mathlib.Data.List.Infix

/-!
# Files in trees of directories

What is written at the end of a row of directories that holds nothing else.  A place is vacant when
nothing stands there but all the directories that it would stand in exist.  Following a path to a
vacant place ends there, unless the path or a name on it is too long, or one of the directories may
not be passed.
-/

namespace DspBridge.Files

/-- The process may follow paths through a directory and change what it holds. -/
structure Standing.Free (standing : Standing) : Prop where
  passing : standing.passing = none
  writing : standing.writing = none

instance (standing : Standing) : Decidable standing.Free :=
  decidable_of_iff (standing.passing = none ∧ standing.writing = none)
    ⟨fun free => ⟨free.1, free.2⟩, fun free => ⟨free.1, free.2⟩⟩

namespace Folder

/-! ## Looking things up -/

theorem find?_nil (tree : Folder) : tree.find? [] = some tree.own := rfl

theorem find?_of_ne_nil (tree : Folder) {names : List String} (below : names ≠ []) :
    tree.find? names = tree.entries.lookup names := by
  rw [find?, if_neg (List.isEmpty_iff.not.mpr below)]

theorem ne_nil_of_free {tree : Folder} {names : List String} (free : tree.find? names = none) :
    names ≠ [] := by
  intro top
  rw [top, find?_nil] at free
  cases free

theorem put_of_free (tree : Folder) {names : List String} (entry : Entry)
    (free : tree.find? names = none) :
    tree.put names entry = ⟨tree.entries ++ [(names, entry)]⟩ := by
  rw [find?_of_ne_nil tree (ne_nil_of_free free), List.lookup_eq_none_iff] at free
  rw [put, List.filter_eq_self.mpr]
  intro present member
  rw [bne_iff_ne]
  exact Ne.symm (bne_iff_ne.mp (free present member))

theorem lookup_put (tree : Folder) {names other : List String} (entry : Entry)
    (free : tree.find? names = none) (apart : other ≠ names) :
    (tree.put names entry).entries.lookup other = tree.entries.lookup other := by
  rw [put_of_free tree entry free, List.lookup_append, List.lookup_cons, List.lookup_nil,
    beq_false_of_ne apart]
  exact Option.or_none

/-- What is found in a tree with one more entry. -/
theorem find?_put (tree : Folder) {names other : List String} (entry : Entry)
    (free : tree.find? names = none) :
    (tree.put names entry).find? other =
      if other = names then some entry else tree.find? other := by
  have below := ne_nil_of_free free
  by_cases top : other = []
  · rw [top, find?_nil, find?_nil, if_neg (Ne.symm below), own, own,
      lookup_put tree entry free (Ne.symm below)]
  · rw [find?_of_ne_nil _ top, find?_of_ne_nil _ top]
    by_cases same : other = names
    · rw [same] at top ⊢
      rw [find?_of_ne_nil tree top] at free
      rw [put_of_free tree entry (by rwa [find?_of_ne_nil tree top]), List.lookup_append, free]
      simp
    · rw [lookup_put tree entry free same, if_neg same]

/-! ## Rows of directories -/

/-- A directory with the directories in it that names lead through, and nothing else. -/
def chain (standing : Standing) (names : List String) : Folder :=
  ⟨([], .folder standing) :: names.inits.tail.map fun front => (front, .folder)⟩

/-- A directory with one file in it and the directories that the file stands in. -/
def single (standing : Standing) (names : List String) (content : List UInt8) : Folder :=
  ⟨(chain standing names.dropLast).entries ++ [(names, .file content)]⟩

theorem chain_nil (standing : Standing) : chain standing [] = bare (.folder standing) := rfl

theorem own_chain (standing : Standing) (names : List String) :
    (chain standing names).own = .folder standing := rfl

theorem lookup_map_folder (rows : List (List String)) (names : List String) :
    (rows.map fun front => (front, Entry.folder)).lookup names =
      if names ∈ rows then some .folder else none := by
  induction rows with
  | nil => rfl
  | cons front rows ih =>
      rw [List.map_cons, List.lookup_cons, ih]
      by_cases same : names = front
      · simp [same]
      · rw [beq_false_of_ne same]
        simp [same]

/-- A row of directories holds those that lead to its end. -/
theorem find?_chain (standing : Standing) (names : List String) {other : List String}
    (below : other ≠ []) :
    (chain standing names).find? other = if other <+: names then some .folder else none := by
  have inits : names.inits = [] :: names.inits.tail := by cases names <;> rfl
  have mem : other ∈ names.inits.tail ↔ other <+: names := by
    rw [← List.mem_inits, inits, List.tail_cons, List.mem_cons]
    simp [below]
  rw [find?_of_ne_nil _ below, chain, List.lookup_cons, beq_false_of_ne below, lookup_map_folder]
  simp only [mem]

/-- Nothing stands at some names, but all the directories that lead there exist. -/
structure Vacant (tree : Folder) (names : List String) : Prop where
  free : tree.find? names = none
  leads : ∀ front, front <+: names → front ≠ names →
    ∃ standing, tree.find? front = some (.folder standing)

/-- What stands at some names could be put there: paths may lead there, and the directory there may
be changed. -/
structure Admits (tree : Folder) (names : List String) : Prop where
  passing : ∀ front, front <+: names → front ≠ names → tree.checkPassing front = .ok ()
  writing : tree.checkWriting names.dropLast = .ok ()

section Chains

variable (standing : Standing) (names : List String)

theorem find?_chain_ahead {front : List String} (ahead : front <+: names) :
    (chain standing names).find? front =
      some (.folder (if front = [] then standing else {})) := by
  by_cases top : front = []
  · rw [top, find?_nil, own_chain, if_pos rfl]
  · rw [find?_chain standing names top, if_pos ahead, if_neg top]

theorem vacant_chain (last : String) : (chain standing names).Vacant (names ++ [last]) := by
  constructor
  · rw [find?_chain _ _ (by simp), if_neg]
    intro longer
    have lengths := longer.length_le
    rw [List.length_append, List.length_singleton] at lengths
    omega
  · intro front ahead proper
    rcases List.prefix_concat_iff.mp ahead with same | ahead
    · exact absurd same proper
    · exact ⟨_, find?_chain_ahead standing names ahead⟩

/-- Whatever may be put into the first of the directories may be put into the last. -/
theorem admits_chain (free : standing.Free) (last : String) :
    (chain standing names).Admits (names ++ [last]) := by
  constructor
  · intro front ahead proper
    rcases List.prefix_concat_iff.mp ahead with same | ahead
    · exact absurd same proper
    · rw [checkPassing, find?_chain_ahead standing names ahead]
      split
      · rename_i found
        cases found
        split
        · rw [free.passing]
          rfl
        · rfl
      · rename_i found
        cases found
      · rename_i found
        cases found
      · rename_i found
        cases found
  · rw [List.dropLast_concat, checkWriting,
      find?_chain_ahead standing names (List.prefix_refl _)]
    dsimp only
    split
    · rw [free.writing]
      rfl
    · rfl

theorem single_eq_put (last : String) (content : List UInt8) :
    single standing (names ++ [last]) content =
      (chain standing names).put (names ++ [last]) (.file content) := by
  rw [put_of_free _ _ (vacant_chain standing names last).free, single, List.dropLast_concat]

/-- One file leaves the places beside it vacant. -/
theorem vacant_single {last other : String} (beside : other ≠ last) (content : List UInt8) :
    (single standing (names ++ [last]) content).Vacant (names ++ [other]) := by
  have vacant := vacant_chain standing names other
  have apart : ∀ front, front <+: names ++ [other] → front ≠ names ++ [last] := by
    intro front ahead same
    rw [same, List.prefix_append_right_inj, List.cons_prefix_cons] at ahead
    exact beside ahead.1.symm
  constructor
  · rw [single_eq_put, find?_put _ _ (vacant_chain standing names last).free,
      if_neg (apart _ (List.prefix_refl _))]
    exact vacant.free
  · intro front ahead proper
    rw [single_eq_put, find?_put _ _ (vacant_chain standing names last).free,
      if_neg (apart front ahead)]
    exact vacant.leads front ahead proper

theorem chain_concat (last : String) :
    (chain standing names).put (names ++ [last]) .folder = chain standing (names ++ [last]) := by
  have inits : (names ++ [last]).inits.tail = names.inits.tail ++ [names ++ [last]] := by
    rw [List.inits_append]
    cases names <;> rfl
  rw [put_of_free _ _ (vacant_chain standing names last).free, chain, chain, inits, List.map_append]
  rfl

end Chains

/-! ## Results that are due -/

/-- The result is the value that is due, or an error that the condition rules out. -/
def Attains {α : Type} (condition : Prop) (due : α) (result : Except FileError α) : Prop :=
  result = .ok due ∨ ∃ error, result = .error error ∧ ¬ condition

section Attaining

variable {α : Type} {condition : Prop} {due : α} {result : Except FileError α}

theorem Attains.of_error {error : FileError} (failed : result = .error error)
    (ruledOut : ¬ condition) : Attains condition due result := .inr ⟨error, failed, ruledOut⟩

theorem Attains.mono {stronger : Prop} (attains : Attains condition due result)
    (implies : stronger → condition) : Attains stronger due result := by
  rcases attains with reached | ⟨error, failed, ruledOut⟩
  · exact .inl reached
  · exact .of_error failed fun met => ruledOut (implies met)

end Attaining

/-! ## Following paths to vacant places -/

theorem isName_iff {segment : String} : isName segment = true ↔ segment ≠ "" ∧ segment ≠ "." := by
  simp [isName]

/-- Segments that lead from one directory to the others, and end in a name. -/
structure Heads (start rest names : List String) : Prop where
  inward : ".." ∉ rest
  names : start ++ rest.filter isName = names
  ends : ∀ last ∈ rest.getLast?, isName last = true

section Heading

variable {start rest names : List String} {segment : String}

theorem heads_of_leadsTo {path : String} (leads : LeadsTo start path names) :
    Heads start (segments path) names := ⟨leads.inward, leads.names, leads.ends⟩

/-- Segments have led to the end just when none of them is left. -/
theorem Heads.arrived_iff (heads : Heads start rest names) : start = names ↔ rest = [] := by
  constructor
  · intro arrived
    by_contra ahead
    have unnamed := heads.names
    rw [arrived, List.append_right_eq_self, List.filter_eq_nil_iff] at unnamed
    exact unnamed _ (List.getLast_mem ahead) (heads.ends _ (List.getLast?_eq_some_getLast ahead))
  · intro done
    have named := heads.names
    rw [done, List.filter_nil, List.append_nil] at named
    exact named

theorem Heads.later_ends (heads : Heads start (segment :: rest) names) :
    ∀ last ∈ rest.getLast?, isName last = true := by
  intro last member
  apply heads.ends
  rw [List.getLast?_cons, member]
  rfl

/-- A segment that is no name makes no difference to the way, and does not end it. -/
theorem Heads.skip (heads : Heads start (segment :: rest) names)
    (unnamed : isName segment = false) : rest ≠ [] ∧ Heads start rest names := by
  have named := heads.names
  rw [List.filter_cons_of_neg (Bool.eq_false_iff.mp unnamed)] at named
  refine ⟨?_, List.not_mem_of_not_mem_cons heads.inward, named, heads.later_ends⟩
  rintro rfl
  rw [heads.ends segment rfl] at unnamed
  cases unnamed

/-- A name leads one directory further. -/
theorem Heads.enter (heads : Heads start (segment :: rest) names)
    (named : isName segment = true) : Heads (start ++ [segment]) rest names := by
  have onward := heads.names
  rw [List.filter_cons_of_pos named, List.append_cons] at onward
  exact ⟨List.not_mem_of_not_mem_cons heads.inward, onward, heads.later_ends⟩

end Heading

section Steps

variable (tree : Folder) (followLast : Bool)
  (follow : List String → List String → Except FileError Place) (start rest : List String)
  {segment : String}

theorem walk_empty :
    tree.walk followLast follow start ("" :: rest) = tree.walk followLast follow start rest := by
  rw [walk]
  rfl

theorem walk_shut (stated : segment ≠ "") {error : FileError}
    (shut : tree.checkPassing start = .error error) :
    tree.walk followLast follow start (segment :: rest) = .error error := by
  rw [walk, if_neg (String.isEmpty_iff.not.mpr stated), shut]

section Passing

variable (passing : tree.checkPassing start = .ok ())
include passing

theorem walk_current :
    tree.walk followLast follow start ("." :: rest) = tree.walk followLast follow start rest := by
  rw [walk, passing]
  rfl

section Names

variable (named : isName segment = true) (inward : segment ≠ "..")
include named inward

theorem walk_long (long : nameLimit < segment.utf8ByteSize) :
    tree.walk followLast follow start (segment :: rest) = .error .nameTooLong := by
  obtain ⟨stated, other⟩ := isName_iff.mp named
  rw [walk, if_neg (String.isEmpty_iff.not.mpr stated), passing, beq_false_of_ne other,
    beq_false_of_ne inward]
  simp only [Bool.false_eq_true, if_false, long, if_true]

theorem walk_folder (short : ¬ nameLimit < segment.utf8ByteSize) {standing : Standing}
    (found : tree.find? (start ++ [segment]) = some (.folder standing)) :
    tree.walk followLast follow start (segment :: rest) =
      tree.walk followLast follow (start ++ [segment]) rest := by
  obtain ⟨stated, other⟩ := isName_iff.mp named
  rw [walk, if_neg (String.isEmpty_iff.not.mpr stated), passing, beq_false_of_ne other,
    beq_false_of_ne inward]
  simp only [Bool.false_eq_true, if_false, short, found]

theorem walk_free (short : ¬ nameLimit < segment.utf8ByteSize)
    (free : tree.find? (start ++ [segment]) = none) :
    tree.walk followLast follow start (segment :: rest) =
      if rest.all String.isEmpty then .ok ⟨start ++ [segment], none, !rest.isEmpty⟩
      else .error .notFound := by
  obtain ⟨stated, other⟩ := isName_iff.mp named
  rw [walk, if_neg (String.isEmpty_iff.not.mpr stated), passing, beq_false_of_ne other,
    beq_false_of_ne inward]
  simp only [Bool.false_eq_true, if_false, short, free]

/-- A name on the way to a vacant place is the last, or the walk goes on from there. -/
theorem walk_onward {names : List String} (vacant : tree.Vacant names)
    (heads : Heads (start ++ [segment]) rest names) (short : ¬ nameLimit < segment.utf8ByteSize) :
    tree.walk followLast follow start (segment :: rest) = .ok ⟨names, none, false⟩ ∨
      rest ≠ [] ∧ tree.walk followLast follow start (segment :: rest) =
        tree.walk followLast follow (start ++ [segment]) rest := by
  by_cases arrived : start ++ [segment] = names
  · have free := vacant.free
    rw [← arrived] at free
    left
    rw [walk_free _ _ _ _ _ passing named inward short free, heads.arrived_iff.mp arrived, arrived]
    rfl
  · obtain ⟨standing, found⟩ := vacant.leads _ ⟨_, heads.names⟩ arrived
    right
    refine ⟨?_, walk_folder _ _ _ _ _ passing named inward short found⟩
    exact heads.arrived_iff.not.mp arrived

end Names

end Passing

end Steps

/-- Following segments to a vacant place ends there, unless one of them is too long or may not be
followed. -/
theorem walk_vacant {tree : Folder} {names : List String} (vacant : tree.Vacant names)
    (followLast : Bool) (follow : List String → List String → Except FileError Place)
    {start rest : List String} (heads : Heads start rest names) (ahead : rest ≠ []) :
    Attains (tree.Admits names ∧ ∀ segment ∈ rest, segment.utf8ByteSize ≤ nameLimit)
      ⟨names, none, false⟩ (tree.walk followLast follow start rest) := by
  induction rest generalizing start with
  | nil => exact absurd rfl ahead
  | cons segment rest ih =>
      have later {next : List String} (more : rest ≠ []) (heads : Heads next rest names) :
          Attains (tree.Admits names ∧ ∀ other ∈ segment :: rest, other.utf8ByteSize ≤ nameLimit)
            ⟨names, none, false⟩ (tree.walk followLast follow next rest) := by
        refine (ih heads more).mono ?_
        rintro ⟨admits, short⟩
        exact ⟨admits, fun other member => short other (List.mem_cons_of_mem _ member)⟩
      by_cases stated : segment = ""
      · obtain ⟨more, skipped⟩ := heads.skip (by rw [stated]; rfl)
        rw [stated, walk_empty, ← stated]
        exact later more skipped
      cases passing : tree.checkPassing start with
      | error error =>
          refine .of_error (walk_shut _ _ _ _ _ stated passing) ?_
          rintro ⟨admits, -⟩
          have proper := heads.arrived_iff.not.mpr (List.cons_ne_nil _ _)
          rw [admits.passing start ⟨_, heads.names⟩ proper] at passing
          cases passing
      | ok =>
          by_cases current : segment = "."
          · obtain ⟨more, skipped⟩ := heads.skip (by rw [current]; rfl)
            rw [current, walk_current _ _ _ _ _ passing, ← current]
            exact later more skipped
          have named := isName_iff.mpr ⟨stated, current⟩
          have inward := Ne.symm (List.ne_of_not_mem_cons heads.inward)
          by_cases long : nameLimit < segment.utf8ByteSize
          · refine .of_error (walk_long _ _ _ _ _ passing named inward long) ?_
            rintro ⟨-, short⟩
            exact absurd (short segment List.mem_cons_self) (Nat.not_le_of_lt long)
          · rcases walk_onward tree followLast follow start rest passing named inward vacant
              (heads.enter named) long with reached | ⟨more, next⟩
            · exact .inl reached
            · rw [next]
              exact later more (heads.enter named)

variable {tree : Folder} {start names : List String} {path : String} {limit : Nat}

/-- A path that is not too long, in whole or in part. -/
structure Fits (limit : Nat) (path : String) : Prop where
  textual : Char.ofNat 0 ∉ path.toList
  short : path.utf8ByteSize ≤ limit
  shortNames : ∀ segment ∈ segments path, segment.utf8ByteSize ≤ nameLimit

theorem Fits.of_mem {name : String} (fits : Fits limit path) (below : below? path = some names)
    (member : name ∈ names) : Fits pathLimit name := by
  have inside := mem_segments_of_below? below member
  have shortName := fits.shortNames name inside
  refine ⟨?_, ?_, ?_⟩
  · intro nul
    exact fits.textual (subset_of_mem_segments inside nul)
  · exact Nat.le_trans shortName (by decide)
  · intro segment part
    rw [segments_plain (not_mem_of_mem_segments inside), List.mem_singleton] at part
    rw [part]
    exact shortName

theorem checkPath_ok_iff :
    checkPath limit path = .ok () ↔ Char.ofNat 0 ∉ path.toList ∧ path.utf8ByteSize ≤ limit := by
  rw [checkPath]
  split
  · rename_i nul
    exact iff_of_false nofun fun fits => fits.1 (List.contains_iff_mem.mp nul)
  · rename_i textual
    split
    · rename_i long
      exact iff_of_false nofun fun fits => Nat.not_le_of_lt long fits.2
    · rename_i short
      exact iff_of_true rfl
        ⟨fun nul => textual (List.contains_iff_mem.mpr nul), Nat.le_of_not_lt short⟩

theorem Fits.checkPath (fits : Fits limit path) : checkPath limit path = .ok () :=
  checkPath_ok_iff.mpr ⟨fits.textual, fits.short⟩

theorem Fits.checkPath_around (fits : Fits limit path) :
    Folder.checkPath limit (around path) = .ok () := by
  refine checkPath_ok_iff.mpr ⟨?_, (utf8ByteSize_around_le path).trans fits.short⟩
  intro nul
  exact fits.textual ((around_begins path).subset nul)

/-- A path that fits and leads to a vacant place ends there. -/
theorem locate_vacant (vacant : tree.Vacant names) (leads : LeadsTo start path names)
    (followLast : Bool) (limit : Nat) :
    Attains (Fits limit path ∧ tree.Admits names) ⟨names, none, false⟩
      (tree.locate followLast start path limit) := by
  cases checked : checkPath limit path with
  | error error =>
      refine .of_error (by rw [locate, checked]) ?_
      rintro ⟨fits, -⟩
      rw [fits.checkPath] at checked
      cases checked
  | ok =>
      have relative : (path.isEmpty || isAbsolute path) = false := by
        rw [leads.relative, Bool.or_false, Bool.eq_false_iff, ne_eq, String.isEmpty_iff]
        intro empty
        rw [empty] at leads
        exact absurd (leads.ends "" rfl) (by decide)
      have traced : tree.locate followLast start path limit =
          tree.walk followLast (tree.trace followLast 39) start (segments path) := by
        rw [locate, checked]
        dsimp only
        rw [relative, if_neg Bool.false_ne_true, linkLimit, trace]
      rw [traced]
      refine (walk_vacant vacant followLast _ (heads_of_leadsTo leads) (segments_ne_nil path)).mono ?_
      rintro ⟨fits, admits⟩
      exact ⟨admits, fits.shortNames⟩

/-- Nothing stands at a vacant place. -/
theorem has_vacant (vacant : tree.Vacant names) (leads : LeadsTo start path names) (limit : Nat) :
    tree.has start path limit = false := by
  rw [has]
  rcases locate_vacant vacant leads true limit with reached | ⟨error, stopped, -⟩
  · rw [reached]
    rfl
  · rw [stopped]

theorem writeBytes_of_locate {content : List UInt8}
    (reached : tree.locate true start path limit = .ok ⟨names, none, false⟩) :
    tree.writeBytes start path content limit =
      (tree.checkWriting names.dropLast).map fun _ => tree.put names (.file content) := by
  rw [writeBytes, fileForWriting, reached]
  simp only [bind, Except.bind, Bool.false_eq_true, if_false]
  cases tree.checkWriting names.dropLast <;> rfl

/-- A file can be written at a vacant place, and stands there afterwards. -/
theorem writeBytes_vacant (vacant : tree.Vacant names) (leads : LeadsTo start path names)
    (content : List UInt8) (limit : Nat) :
    Attains (Fits limit path ∧ tree.Admits names) (tree.put names (.file content))
      (tree.writeBytes start path content limit) := by
  rcases locate_vacant vacant leads true limit with reached | ⟨error, stopped, unfit⟩
  · rw [writeBytes_of_locate reached]
    cases writing : tree.checkWriting names.dropLast with
    | ok => exact .inl rfl
    | error error =>
        refine .of_error rfl ?_
        rintro ⟨-, admits⟩
        rw [admits.writing] at writing
        cases writing
  · rw [writeBytes, fileForWriting, stopped]
    exact .of_error rfl unfit

/-- Directories are made one in the other, up to the first that cannot be made. -/
theorem makeFolders_chain {rest : List String} (standing : Standing) (start : List String)
    (leads : ∀ name ∈ rest, ∀ start, LeadsTo start name (start ++ [name])) :
    (chain standing start).makeFolders start rest = (.ok (), chain standing (start ++ rest)) ∨
      ∃ error made, made <+: start ++ rest ∧
        ¬ (standing.Free ∧ ∀ name ∈ rest, Fits pathLimit name) ∧
        (chain standing start).makeFolders start rest = (.error error, chain standing made) := by
  induction rest generalizing start with
  | nil =>
      left
      rw [makeFolders, List.append_nil]
  | cons name rest ih =>
      have leadsFirst := leads name List.mem_cons_self start
      have vacant := vacant_chain standing start name
      rw [makeFolders]
      rcases locate_vacant vacant leadsFirst true pathLimit with
        reached | ⟨error, stopped, unfit⟩
      · rw [reached]
        dsimp only
        cases writing : (chain standing start).checkWriting (start ++ [name]).dropLast with
        | error error =>
            refine .inr ⟨error, start, List.prefix_append _ _, ?_, rfl⟩
            rintro ⟨free, -⟩
            rw [(admits_chain standing start free name).writing] at writing
            cases writing
        | ok =>
            have onward := ih (start ++ [name]) fun later member =>
              leads later (List.mem_cons_of_mem _ member)
            rw [List.append_assoc] at onward
            dsimp only
            rw [chain_concat]
            rcases onward with made | ⟨error, made, short, unfit, stopped⟩
            · exact .inl made
            · refine .inr ⟨error, made, short, ?_, stopped⟩
              rintro ⟨free, fits⟩
              exact unfit ⟨free, fun later member => fits later (List.mem_cons_of_mem _ member)⟩
      · rw [stopped]
        refine .inr ⟨error, start, List.prefix_append _ _, ?_, rfl⟩
        rintro ⟨free, fits⟩
        exact unfit ⟨fits name List.mem_cons_self, admits_chain standing start free name⟩

end Folder

end DspBridge.Files
