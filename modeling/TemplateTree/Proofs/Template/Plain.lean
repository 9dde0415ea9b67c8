import TemplateTree.Proofs.FileSystem.Later
import TemplateTree.Proofs.Template.Machine
import TemplateTree.Proofs.Template.Watching

/-!
# Libraries without a cache

A library without a cache reads a template from its file whenever it is asked for it, and evaluates a module in
a machine of its own. So what is kept of a template is what would be read again while the file that is found
first has the stamp that it had; and what is kept of a module is what would be made again wherever everything
that it rests on is found.

* `Plain`: a library without a cache.
* `Library.make_plain`: a module without a cache.
* `Basis.Holds`, `Script.Goes`: what a computation rests on, and how it goes wherever that is found.
* `Founded`: what is kept was read from file systems that are known, and evaluated as it would be without a
  cache.
-/

namespace TemplateTree.Template

open FileSystem

variable {seen seen' : FileSystem → Prop} {lib lib' plain : Library} {name : String} {α : Type}

/-! ## Files -/

theorem read_of_look {files : FileSystem} {p : Path} {content : ByteArray} {mode stamp : Nat}
    (h : files.look true p = .ok (.file content mode stamp)) : files.read p = .ok content := by
  rw [FileSystem.read, h]
  rfl

/-- Reading a template depends on the content of its file only. -/
theorem readAt_of_agrees (lib : Library) {past files : FileSystem} {p : Path} {stamp : Nat}
    (hagrees : Agrees past files)
    (hpast : stamp? past p = some stamp) (hnow : stamp? files p = some stamp) :
    { lib with files }.readAt name p = { lib with files := past }.readAt name p := by
  obtain ⟨content, mode, hpast⟩ := stamp?_eq_some.1 hpast
  obtain ⟨content', mode', hnow⟩ := stamp?_eq_some.1 hnow
  obtain rfl := hagrees p _ _ _ _ _ hpast hnow
  unfold Library.readAt
  rw [read_of_look hnow, read_of_look hpast]

/-- A template that is read can go on the shelf. -/
theorem exists_of_read {label : Nat} {shownName : String} {kept : Kept}
    (h : lib.read label name shownName = .ok kept) :
    kept.module = none ∧ stamp? lib.files kept.origin = some kept.stamp ∧
      lib.readAt name kept.origin = .ok kept.loaded := by
  unfold Library.read at h
  split at h
  · cases h
  · split at h
    · cases h
    · rename_i p stamp hfound
      cases hread : lib.readAt name p with
      | error f =>
        rw [hread] at h
        cases h
      | ok loaded =>
        rw [hread] at h
        cases h
        exact ⟨rfl, stamp?_of_findFile? hfound, hread⟩

/-! ## Without a cache -/

/-- A library without a cache that is configured like another one. A file of a file system that has been seen has
    the content that it had there, if it has the stamp that it had. -/
structure Plain (seen : FileSystem → Prop) (lib plain : Library) : Prop where
  config : plain.config = { lib.config with cacheEnabled := false }
  searchPath : plain.searchPath = lib.searchPath
  agrees : ∀ past, seen past → Agrees past plain.files
  shelf : plain.shelf = []
  labels : plain.labels = []

namespace Plain

theorem congr (h : Plain seen lib plain) (hmanner : lib'.manner = lib.manner) : Plain seen lib' plain :=
  ⟨Library.config_of_manner hmanner ▸ h.config, Library.searchPath_of_manner hmanner ▸ h.searchPath, h.agrees,
    h.shelf, h.labels⟩

theorem imp (h : Plain seen' lib plain) (himp : ∀ past, seen past → seen' past) : Plain seen lib plain :=
  ⟨h.config, h.searchPath, fun past hpast => h.agrees past (himp past hpast), h.shelf, h.labels⟩

theorem label?_eq_none (h : Plain seen lib plain) (id : CellId) : plain.label? id = none := by
  rw [Library.label?, h.labels]
  rfl

theorem isSame (h : Plain seen lib plain) (a b : CellId) : plain.isSame a b = (a == b) := by
  rw [Library.isSame, h.label?_eq_none, h.label?_eq_none]
  exact Bool.or_false _

theorem change (h : Plain seen lib plain) (id : CellId) : plain.change id = ([], plain) := by
  rw [Library.change, h.label?_eq_none]

theorem module?_eq_none (h : Plain seen lib plain) (name : String) : plain.module? name = none := by
  rw [Library.module?, Library.onShelf?, h.shelf]
  rfl

theorem begun (h : Plain seen lib plain) (id : TemplateId) : Plain seen lib (plain.begun id) := by
  refine ⟨h.config, h.searchPath, h.agrees, h.shelf, ?_⟩
  rw [Library.begun, h.label?_eq_none]
  rfl

theorem cacheEnabled (h : Plain seen lib plain) : plain.config.cacheEnabled = false := by
  rw [h.config]

theorem strictUndefined (h : Plain seen lib plain) : plain.config.strictUndefined = lib.config.strictUndefined := by
  rw [h.config]

/-- Where the same file is found, the same template is read. -/
theorem read_eq (h : Plain seen lib plain) (hseen : seen lib.files) (hfound : plain.found? name = lib.found? name)
    (label label' : Nat) (shownName : String) :
    (plain.read label name shownName).map (·.loaded) = (lib.read label' name shownName).map (·.loaded) := by
  unfold Library.found? at hfound
  unfold Library.read
  rw [h.searchPath] at hfound ⊢
  cases hparts : nameParts? name with
  | none => rfl
  | some parts =>
    rw [hparts] at hfound
    have hfind : findFile? plain.files parts lib.searchPath = findFile? lib.files parts lib.searchPath := hfound
    dsimp only
    rw [hfind]
    cases hfile : findFile? lib.files parts lib.searchPath with
    | none => rfl
    | some found =>
      obtain ⟨p, stamp⟩ := found
      have hreadAt : plain.readAt name p = lib.readAt name p := by
        have hnow : plain.readAt name p = { lib with files := plain.files }.readAt name p := by
          unfold Library.readAt
          rw [h.config]
          rfl
        rw [hnow, readAt_of_agrees lib (h.agrees _ hseen) (stamp?_of_findFile? hfile)
          (stamp?_of_findFile? (hfind.trans hfile))]
      dsimp only
      rw [hreadAt]
      cases lib.readAt name p <;> rfl

theorem template_eq (h : Plain seen lib plain) (id : TemplateId) (name shownName : String) :
    plain.template id name shownName = ((plain.read plain.next name shownName).map (·.loaded), plain) := by
  unfold Library.template
  rw [h.cacheEnabled]
  rfl

end Plain

/-- A module without a cache is evaluated in a machine of its own, and nothing of it is kept. -/
theorem Library.make_plain {id : TemplateId} {l : Loaded} {depth : Nat} {result : Except Fault CellId} {m : Machine}
    (h : Plain seen lib plain) (hread : plain.template id name name = (.ok l, plain))
    (hplay : (moduleAlone lib.config.strictUndefined l).playWith (Library.answerWith (Library.make depth))
      (plain.begun id) = (result, m, plain.begun id)) (cells : Array Cell) :
    plain.make (depth + 1) id name cells = ((Made.of result m).behind cells, plain) := by
  unfold Library.make
  rw [hread]
  dsimp only
  rw [h.strictUndefined, hplay]
  have hended : plain.ended (plain.begun id) name cells (.of result m) = plain := by
    unfold Library.ended
    rw [if_pos]
    · rfl
    · change (!plain.config.cacheEnabled) = true
      rw [h.cacheEnabled]
      rfl
  exact congrArg (Prod.mk _) hended

/-! ## What an evaluation rests on -/

theorem Lookup.isCurrent_content {p : Path} {found : Except SystemError (Option ByteArray)} :
    (Lookup.content p found).isCurrent lib = true ↔ lib.files.content? p = found := by
  have hdata (a b : Option ByteArray) : a.map ByteArray.data = b.map ByteArray.data ↔ a = b :=
    Option.map_inj_right fun _ _ => ByteArray.ext
  simp only [Lookup.isCurrent]
  cases lib.files.content? p <;> cases found <;> simp [hdata]

theorem Lookup.isCurrent_template {found : Option (Path × Nat)} :
    (Lookup.template name found).isCurrent lib = true ↔ lib.found? name = found :=
  beq_iff_eq

theorem Lookup.isCurrent_congr (hfiles : lib'.files = lib.files) (hsearchPath : lib'.searchPath = lib.searchPath)
    (lookup : Lookup) : lookup.isCurrent lib' = lookup.isCurrent lib := by
  cases lookup with
  | template name found => simp only [Lookup.isCurrent, Library.found?, hfiles, hsearchPath]
  | content p found => simp only [Lookup.isCurrent, hfiles]

/-- Everything is found that an evaluation rests on, and there is room for modules inside each other: the same room
    if that was used up, and else enough. -/
structure Basis.Holds (b : Basis) (lib : Library) (depth depth' : Nat) : Prop where
  lookups : ∀ lookup ∈ b.lookups, lookup.isCurrent lib = true
  height : b.height ≤ depth'
  room : b.isCut = true → depth' = depth

theorem Basis.Holds.congr {b : Basis} {depth depth' : Nat} (h : b.Holds lib depth depth')
    (hfiles : lib'.files = lib.files) (hsearchPath : lib'.searchPath = lib.searchPath) : b.Holds lib' depth depth' :=
  ⟨fun lookup hlookup => (lookup.isCurrent_congr hfiles hsearchPath).trans (h.lookups lookup hlookup), h.height, h.room⟩

/-- What holds of an evaluation that uses a module holds of itself. -/
theorem Basis.Holds.of_withModule {b module : Basis} {depth depth' : Nat}
    (h : (b.withModule module).Holds lib depth depth') : b.Holds lib depth depth' where
  lookups lookup hlookup := h.lookups lookup (List.mem_append_right _ hlookup)
  height := Nat.le_trans (Nat.le_max_left _ _) h.height
  room hcut := h.room (by simp [Basis.withModule, hcut])

/-- What holds of an evaluation that uses a module holds of the module, one step further inside. -/
theorem Basis.Holds.inside {b module : Basis} {depth depth' : Nat} (h : (b.withModule module).Holds lib depth depth') :
    ∃ inner, depth' = inner + 1 ∧
      ∀ depth₁, (module.isCut = true → depth = depth₁ + 1) → module.Holds lib depth₁ inner := by
  have hheight : module.height + 1 ≤ depth' := Nat.le_trans (Nat.le_max_right _ _) h.height
  obtain ⟨inner, rfl⟩ : ∃ inner, depth' = inner + 1 := ⟨depth' - 1, by omega⟩
  refine ⟨inner, rfl, fun depth₁ hdepth => ⟨fun lookup hlookup => ?_, by omega, fun hcut => ?_⟩⟩
  · exact h.lookups lookup (List.mem_append_left _ hlookup)
  · have hroom : inner + 1 = depth := h.room (by simp [Basis.withModule, hcut])
    have hcut := hdepth hcut
    omega

/-- Wherever everything is found that it rests on, a computation goes this way without a cache. -/
def Script.Goes (seen : FileSystem → Prop) (lib : Library) (x : Script α) (basis : Basis) (depth : Nat)
    (result : Except Fault α) (m : Machine) : Prop :=
  ∀ plain depth', Plain seen lib plain → basis.Holds plain depth depth' →
    x.playWith (Library.answerWith (Library.make depth')) plain = (result, m, plain)

theorem Script.Goes.congr {x : Script α} {basis : Basis} {depth : Nat} {result : Except Fault α} {m : Machine}
    (h : x.Goes seen lib basis depth result m) (hmanner : lib'.manner = lib.manner) :
    x.Goes seen lib' basis depth result m :=
  fun plain depth' hplain => h plain depth' (hplain.congr hmanner.symm)

/-! ## What is kept -/

/-- A template on the shelf was read from a file system that has been seen. -/
def Genuine (seen : FileSystem → Prop) (lib : Library) (name : String) (kept : Kept) : Prop :=
  ∃ past, seen past ∧ stamp? past kept.origin = some kept.stamp ∧
    { lib with files := past }.readAt name kept.origin = .ok kept.loaded

/-- A module that is kept is what its evaluation in a machine of its own comes to. -/
def Evaluates (seen : FileSystem → Prop) (lib : Library) (basis : Basis) (l : Loaded) (made : Made) : Prop :=
  ∃ depth result m, (moduleAlone lib.config.strictUndefined l).Goes seen lib basis depth result m ∧
    Made.of result m = made

theorem Genuine.congr {kept : Kept} (h : Genuine seen lib name kept) (hmanner : lib'.manner = lib.manner) :
    Genuine seen lib' name kept := by
  obtain ⟨past, hpast, hstamp, hread⟩ := h
  refine ⟨past, hpast, hstamp, ?_⟩
  rw [← hread]
  unfold Library.readAt
  dsimp only
  rw [Library.config_of_manner hmanner]

theorem Evaluates.congr {basis : Basis} {l : Loaded} {made : Made} (h : Evaluates seen lib basis l made)
    (hmanner : lib'.manner = lib.manner) : Evaluates seen lib' basis l made := by
  obtain ⟨depth, result, m, hgoes, hmade⟩ := h
  refine ⟨depth, result, m, ?_, hmade⟩
  rw [Library.config_of_manner hmanner]
  exact hgoes.congr hmanner

/-- What is kept was read from file systems that have been seen, and evaluated as it is without a cache. -/
structure Founded (seen : FileSystem → Prop) (lib : Library) (bases : List (String × Basis)) : Prop where
  template : ∀ name kept, named? lib.shelf name = some kept → Genuine seen lib name kept
  module : ∀ name kept module cells, named? lib.shelf name = some kept → kept.module = some module →
    module.cells = some cells → ∃ basis, named? bases name = some basis ∧
      Evaluates seen lib basis kept.loaded ⟨.ok module.cell, cells⟩

namespace Founded

variable {bases : List (String × Basis)}

theorem imp (h : Founded seen lib bases) (himp : ∀ past, seen past → seen' past) : Founded seen' lib bases where
  template name kept hkept := by
    obtain ⟨past, hseen, hread⟩ := h.template name kept hkept
    exact ⟨past, himp past hseen, hread⟩
  module name kept module cells hkept hmodule hcells := by
    obtain ⟨basis, hbasis, depth, result, m, hgoes, hmade⟩ := h.module name kept module cells hkept hmodule hcells
    exact ⟨basis, hbasis, depth, result, m, fun plain depth' hplain => hgoes plain depth' (hplain.imp himp), hmade⟩

/-- What is kept stays founded as long as the shelf and the configuration stay. -/
theorem congr (h : Founded seen lib bases) (hshelf : lib'.shelf = lib.shelf) (hmanner : lib'.manner = lib.manner) :
    Founded seen lib' bases where
  template name kept hkept := (h.template name kept (hshelf ▸ hkept)).congr hmanner
  module name kept module cells hkept hmodule hcells := by
    obtain ⟨basis, hbasis, hevaluates⟩ := h.module name kept module cells (hshelf ▸ hkept) hmodule hcells
    exact ⟨basis, hbasis, hevaluates.congr hmanner⟩

/-- A template can go on the shelf, with what its module rests on. -/
theorem set {kept : Kept} {bases' : List (String × Basis)} (h : Founded seen lib bases)
    (hkept : Genuine seen lib name kept)
    (hmodule : ∀ module cells, kept.module = some module → module.cells = some cells →
      ∃ basis, named? bases' name = some basis ∧ Evaluates seen lib basis kept.loaded ⟨.ok module.cell, cells⟩)
    (hbases : ∀ other, name ≠ other → named? bases' other = named? bases other)
    (hshelf : lib'.shelf = setNamed name kept lib.shelf) (hmanner : lib'.manner = lib.manner) :
    Founded seen lib' bases' where
  template other kept' hother := by
    rw [hshelf, named?_setNamed] at hother
    split_ifs at hother with hname
    · cases hother
      exact hname ▸ hkept.congr hmanner
    · exact (h.template other kept' hother).congr hmanner
  module other kept' module cells hother hmade hcells := by
    rw [hshelf, named?_setNamed] at hother
    split_ifs at hother with hname
    · cases hother
      obtain ⟨basis, hbasis, hevaluates⟩ := hmodule module cells hmade hcells
      exact ⟨basis, hname ▸ hbasis, hevaluates.congr hmanner⟩
    · obtain ⟨basis, hbasis, hevaluates⟩ := h.module other kept' module cells hother hmade hcells
      exact ⟨basis, (hbases other hname).trans hbasis, hevaluates.congr hmanner⟩

/-- A template is the one that would be read, whether it is on the shelf or not, unless it has been overtaken. -/
theorem template_eq (h : Founded seen lib bases) (hagrees : ∀ past, seen past → Agrees past lib.files)
    (hfirst : lib.isOvertaken name = false) (id : TemplateId) (shownName : String) :
    (lib.template id name shownName).1 = (lib.read lib.next name shownName).map (·.loaded) := by
  unfold Library.template
  split
  · rfl
  · cases hshelf : lib.onShelf? name with
    | none => cases lib.read lib.next name shownName <;> rfl
    | some kept =>
      obtain ⟨hkept, hcurrent⟩ := Option.filter_eq_some_iff.1 hshelf
      obtain ⟨past, hseen, hpast, hread⟩ := h.template name kept hkept
      have hnow : stamp? lib.files kept.origin = some kept.stamp := by simpa [Kept.isCurrent] using hcurrent
      rw [Library.isOvertaken, hshelf, Option.any_some, bne_eq_false_iff_eq] at hfirst
      obtain ⟨⟨p, stamp⟩, hfound, rfl⟩ := Option.map_eq_some_iff.1 hfirst
      obtain ⟨parts, hparts, hfind⟩ := Option.bind_eq_some_iff.1 hfound
      unfold Library.read
      rw [hparts]
      dsimp only
      rw [hfind]
      dsimp only
      rw [readAt_of_agrees lib (hagrees past hseen) hpast hnow, hread]
      rfl

/-- What is kept stays founded when a template is looked up. -/
theorem after_template (h : Founded seen lib bases) (hseen : seen lib.files) (id : TemplateId)
    (name shownName : String) : Founded seen (lib.template id name shownName).2 bases := by
  unfold Library.template
  split
  · exact h
  · cases hshelf : lib.onShelf? name with
    | some kept => exact h.congr rfl rfl
    | none =>
      dsimp only
      cases hread : lib.read lib.next name shownName with
      | error f => exact h
      | ok kept =>
        obtain ⟨hnew, hstamp, hfile⟩ := exists_of_read hread
        refine h.set ⟨lib.files, hseen, hstamp, hfile⟩ (fun module cells hmodule => ?_) (fun _ _ => rfl) rfl rfl
        rw [hnew] at hmodule
        cases hmodule

end Founded

/-- With a cache, a template that has been looked up is on the shelf. -/
theorem onShelf?_of_template {id : TemplateId} {shownName : String} {l : Loaded}
    (hcached : lib.config.cacheEnabled = true) (h : (lib.template id name shownName).1 = .ok l) :
    ∃ kept, (lib.template id name shownName).2.onShelf? name = some kept ∧ kept.loaded = l := by
  unfold Library.template at h ⊢
  rw [if_neg (by simp [hcached])] at h ⊢
  cases hshelf : lib.onShelf? name with
  | some kept =>
    rw [hshelf] at h
    exact ⟨kept, hshelf, Except.ok.inj h⟩
  | none =>
    rw [hshelf] at h
    dsimp only at h ⊢
    cases hread : lib.read lib.next name shownName with
    | error f =>
      rw [hread] at h
      cases h
    | ok kept =>
      rw [hread] at h
      obtain ⟨-, hstamp, -⟩ := exists_of_read hread
      refine ⟨kept, ?_, Except.ok.inj h⟩
      unfold Library.onShelf?
      rw [named?_setNamed, if_pos rfl, Option.filter_some, if_pos]
      exact beq_iff_eq.2 hstamp

end TemplateTree.Template
