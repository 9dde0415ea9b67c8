import TemplateTree.Proofs.Template.Plain

/-!
# The cache of templates

A library that caches templates and modules gives the same answers as one that does not, as long as the cache
does not show. Whatever it keeps is founded, each answer preserves that, and with the same answers a computation
goes the same way; modules inside each other are followed by induction on how deep they may be.

* `Watch.Sound`, `Watch.Leads`: a library that is watched, before and after a step.
* `Watch.Sound.answerWith`, `Watch.Sound.playWith`: a question, and a computation.
* `makesPlainly`: a module.
* `Session.noted`: what is noted of an engine from one template to the next.
* `render_uncached`: a template is rendered to the same text.
-/

namespace TemplateTree.Template

open FileSystem

variable {seen : FileSystem → Prop} {lib lib' plain : Library} {w w' : Watch} {name : String} {α : Type}

/-! ## A library that is watched -/

/-- A library with a cache that is watched, whose cache has not shown. -/
structure Watch.Sound (seen : FileSystem → Prop) (w : Watch) : Prop where
  isCached : w.library.config.cacheEnabled = true
  now : seen w.library.files
  agrees : ∀ past, seen past → Agrees past w.library.files
  founded : Founded seen w.library w.bases
  lookups : ∀ lookup ∈ w.basis.lookups, lookup.isCurrent w.library = true

/-- A step, or several, with which nothing is lost of what an evaluation rests on. -/
structure Watch.Leads (seen : FileSystem → Prop) (w w' : Watch) : Prop where
  sound : w'.Sound seen
  setting : w'.library.setting = w.library.setting
  basis : ∀ lib depth depth', w'.basis.Holds lib depth depth' → w.basis.Holds lib depth depth'

theorem Watch.Leads.trans {w'' : Watch} (h : w.Leads seen w') (h' : w'.Leads seen w'') : w.Leads seen w'' :=
  ⟨h'.sound, h'.setting.trans h.setting, fun _ _ _ hholds => h.basis _ _ _ (h'.basis _ _ _ hholds)⟩

/-- Two objects are the same without a cache if they are that with a cache which does not show. -/
theorem Watch.isSame_plain {a b : TemplateId} (hplain : Plain seen w.library plain)
    (hshown : (w.library.isSame a b && a != b) = false) : plain.isSame a b = w.library.isSame a b := by
  have hsame : w.library.isSame a b = (a == b) := by
    by_cases hab : a = b
    · simp [Library.isSame, hab]
    · rw [beq_eq_false_iff_ne.2 hab]
      simpa [hab] using hshown
  exact (hplain.isSame a b).trans hsame.symm

namespace Watch.Sound

variable (h : w.Sound seen)

include h

theorem looked {lookup : Lookup} (hlookup : lookup.isCurrent w.library = true) : w.Leads seen (w.looked lookup) where
  sound := ⟨h.isCached, h.now, h.agrees, h.founded, List.forall_mem_cons.2 ⟨hlookup, h.lookups⟩⟩
  setting := rfl
  basis _ _ _ hholds := ⟨fun lookup hlookup => hholds.lookups lookup (List.mem_cons_of_mem _ hlookup), hholds.height,
    hholds.room⟩

theorem shows (isShown : Bool) : w.Leads seen (w.shows isShown) :=
  ⟨⟨h.isCached, h.now, h.agrees, h.founded, h.lookups⟩, rfl, fun _ _ _ hholds => hholds⟩

/-- A library that keeps other templates and modules, or has other labels. -/
theorem with_kept {library : Library} {bases : List (String × Basis)} {isShown : Bool}
    (hfounded : Founded seen library bases) (hsetting : library.setting = w.library.setting) :
    w.Leads seen { w with library, bases, isShown } := by
  have hfiles := Library.files_of_setting hsetting
  have hmanner := Library.manner_of_setting hsetting
  refine ⟨⟨Library.config_of_manner hmanner ▸ h.isCached, hfiles ▸ h.now, hfiles ▸ h.agrees, hfounded,
    fun lookup hlookup => ?_⟩, hsetting, fun _ _ _ hholds => hholds⟩
  exact (lookup.isCurrent_congr hfiles (Library.searchPath_of_manner hmanner)).trans (h.lookups lookup hlookup)

/-- An evaluation that uses a module. -/
theorem with_module {module : Basis} (hmodule : ∀ lookup ∈ module.lookups, lookup.isCurrent w.library = true) :
    w.Leads seen { w with basis := w.basis.withModule module } where
  sound := ⟨h.isCached, h.now, h.agrees, h.founded, fun lookup hlookup =>
    (List.mem_append.1 hlookup).elim (hmodule lookup) (h.lookups lookup)⟩
  setting := rfl
  basis _ _ _ hholds := hholds.of_withModule

theorem sought (name : String) : w.Leads seen (w.sought name) :=
  (h.looked (Lookup.isCurrent_template.2 rfl)).trans ((h.looked (Lookup.isCurrent_template.2 rfl)).sound.shows _)

/-- A template without a cache, as long as the cache has not shown. -/
theorem template_plain (hhidden : (w.sought name).isShown = false) {depth depth' : Nat}
    (hplain : Plain seen w.library plain) (hholds : (w.sought name).basis.Holds plain depth depth')
    (id : TemplateId) (shownName : String) :
    plain.template id name shownName = ((w.library.template id name shownName).1, plain) := by
  have hfirst : w.library.isOvertaken name = false := (Bool.or_eq_false_iff.1 hhidden).2
  have hfound : plain.found? name = w.library.found? name :=
    Lookup.isCurrent_template.1 (hholds.lookups _ List.mem_cons_self)
  rw [hplain.template_eq, h.founded.template_eq h.agrees hfirst, hplain.read_eq h.now hfound plain.next w.library.next]

theorem template (id : TemplateId) (name shownName : String) : w.Leads seen (w.template id name shownName).2 := by
  have hsought := h.sought name
  have hfounded : Founded seen (w.library.template id name shownName).2 w.bases :=
    h.founded.after_template h.now id name shownName
  exact hsought.trans (hsought.sound.with_kept hfounded (w.library.setting_template id name shownName))

/-- A module that is kept, and shows nothing, is the one that would be made. -/
theorem again {kept : KeptModule} (hkept : w.library.module? name = some kept) {cells : Array Cell}
    (hhidden : (w.again name kept cells).2.isShown = false) :
    w.Leads seen (w.again name kept cells).2 ∧
      ∀ plain id depth depth', Plain seen w.library plain → (w.again name kept cells).2.basis.Holds plain depth depth' →
        plain.make depth' id name cells = ((w.again name kept cells).1, plain) := by
  obtain ⟨k, hshelf, hmodule⟩ := Option.bind_eq_some_iff.1 hkept
  unfold Watch.again at hhidden ⊢
  obtain ⟨hsought, hfaithful⟩ := Bool.or_eq_false_iff.1 hhidden
  simp only [Bool.not_eq_false', Bool.and_eq_true, Bool.not_eq_true'] at hfaithful
  obtain ⟨⟨⟨hcells, hunchanged⟩, hcut⟩, hlookups⟩ := hfaithful
  obtain ⟨made, hmade⟩ := Option.isSome_iff_exists.1 hcells
  obtain ⟨basis, hbasis, depth₁, result, m, hgoes, hresult⟩ :=
    h.founded.module name k kept made (Option.filter_eq_some_iff.1 hshelf).1 hmodule hmade
  rw [hbasis, Option.getD_some] at hcut hlookups ⊢
  have hagain : w.library.again kept cells
      = (Made.behind cells ⟨.ok kept.cell, made⟩, w.library.attach cells.size kept.labels) := by
    unfold Library.again
    rw [hunchanged, hmade]
  rw [hagain]
  constructor
  · have hused := (h.sought name).trans ((h.sought name).sound.with_module fun lookup hlookup =>
      List.all_eq_true.1 hlookups lookup hlookup)
    exact hused.trans (hused.sound.with_kept (h.founded.congr rfl rfl) rfl)
  · intro plain id depth depth' hplain hholds
    have hread : (w.library.template id name name).1 = .ok k.loaded := by
      unfold Library.template
      rw [h.isCached, hshelf]
      rfl
    have htemplate := h.template_plain hsought hplain hholds.of_withModule id name
    rw [hread] at htemplate
    obtain ⟨inner, rfl, hinside⟩ := hholds.inside
    have hbegun : basis.Holds (plain.begun id) depth₁ inner :=
      (hinside depth₁ fun hcut' => absurd (hcut.symm.trans hcut') (by simp)).congr rfl rfl
    rw [Library.make_plain hplain htemplate (hgoes _ inner (hplain.begun id) hbegun) cells, hresult]

/-- A change leads to a library that is sound. -/
theorem change (id : TemplateId) (isShown : Bool) :
    w.Leads seen { w.shows isShown with library := (w.library.change id).2 } := by
  have hfounded : Founded seen (w.library.change id).2 w.bases := by
    unfold Library.change
    split
    · exact h.founded
    · exact h.founded.congr rfl rfl
  exact (h.shows _).trans ((h.shows _).sound.with_kept hfounded (w.library.setting_change id))

end Watch.Sound

/-! ## Computations -/

/-- A module that is made while the cache does not show is the one that is made without it. -/
def MakesPlainly (seen : FileSystem → Prop) (depth : Nat) : Prop :=
  ∀ (w : Watch) id name cells, w.Sound seen → (w.make depth id name cells).2.isShown = false →
    w.Leads seen (w.make depth id name cells).2 ∧
      ∀ plain depth', Plain seen w.library plain → (w.make depth id name cells).2.basis.Holds plain depth depth' →
        plain.make depth' id name cells = ((w.make depth id name cells).1, plain)

namespace Watch.Sound

variable {depth : Nat} (hmake : MakesPlainly seen depth)

include hmake

/-- A question has the same answer without a cache that does not show. -/
theorem answerWith (h : w.Sound seen) (q : Question) (hhidden : (w.answerWith (Watch.make depth) q).2.isShown = false) :
    w.Leads seen (w.answerWith (Watch.make depth) q).2 ∧
      ∀ plain depth', Plain seen w.library plain →
        (w.answerWith (Watch.make depth) q).2.basis.Holds plain depth depth' →
        plain.answerWith (Library.make depth') q = ((w.answerWith (Watch.make depth) q).1, plain) := by
  cases q with
  | content p =>
    refine ⟨h.looked (Lookup.isCurrent_content.2 rfl), fun plain depth' _ hholds => ?_⟩
    have hfound := Lookup.isCurrent_content.1 (hholds.lookups _ List.mem_cons_self)
    exact congrArg (·, plain) hfound
  | template id name shownName =>
    refine ⟨h.template id name shownName, fun plain depth' hplain hholds => ?_⟩
    exact h.template_plain hhidden hplain hholds id shownName
  | isKeyed =>
    obtain ⟨-, hshown⟩ := Bool.or_eq_false_iff.1 hhidden
    cases hshown
  | isSame a b =>
    obtain ⟨-, hshown⟩ := Bool.or_eq_false_iff.1 hhidden
    exact ⟨h.shows _, fun plain depth' hplain _ => congrArg (·, plain) (Watch.isSame_plain hplain hshown)⟩
  | changes id =>
    have hshown : (!(w.library.change id).1.isEmpty) = false := (Bool.or_eq_false_iff.1 hhidden).2
    rw [Bool.not_eq_false'] at hshown
    have hnone : (w.library.change id).1 = [] := List.isEmpty_iff.1 hshown
    refine ⟨h.change id _, fun plain depth' hplain _ => ?_⟩
    exact (hplain.change id).trans (congrArg (·, plain) hnone.symm)
  | module id name cells =>
    simp only [Watch.answerWith] at hhidden ⊢
    cases hkept : w.library.module? name with
    | some kept =>
      rw [hkept] at hhidden
      obtain ⟨hleads, hplay⟩ := h.again hkept hhidden
      refine ⟨hleads, fun plain depth' hplain hholds => ?_⟩
      rw [Library.answerWith, hplain.module?_eq_none]
      exact hplay plain id depth depth' hplain hholds
    | none =>
      rw [hkept] at hhidden
      obtain ⟨hleads, hplay⟩ := hmake w id name cells h hhidden
      refine ⟨hleads, fun plain depth' hplain hholds => ?_⟩
      rw [Library.answerWith, hplain.module?_eq_none]
      exact hplay plain depth' hplain hholds

/-- A computation goes the same way without a cache that does not show. -/
theorem playWith (h : w.Sound seen) (x : Script α)
    (hhidden : (x.playWith (Watch.answerWith · (Watch.make depth)) w).2.2.isShown = false) :
    let played := x.playWith (Watch.answerWith · (Watch.make depth)) w
    w.Leads seen played.2.2 ∧ x.Goes seen w.library played.2.2.basis depth played.1 played.2.1 := by
  induction x generalizing w with
  | ok a m => exact ⟨⟨h, rfl, fun _ _ _ hholds => hholds⟩, fun _ _ _ _ => rfl⟩
  | error f m => exact ⟨⟨h, rfl, fun _ _ _ hholds => hholds⟩, fun _ _ _ _ => rfl⟩
  | ask q next ih =>
    have hfirst : (w.answerWith (Watch.make depth) q).2.isShown = false := Watch.isShown_playWith hhidden
    obtain ⟨hleads, hanswer⟩ := h.answerWith hmake q hfirst
    obtain ⟨hrest, hgoes⟩ := ih _ hleads.sound hhidden
    refine ⟨hleads.trans hrest, fun plain depth' hplain hholds => ?_⟩
    have hsame := hanswer plain depth' hplain (hrest.basis _ _ _ hholds)
    have hplay := hgoes plain depth' (hplain.congr (Library.manner_of_setting hleads.setting)) hholds
    simp only [Script.playWith, hsame]
    exact hplay

end Watch.Sound

namespace Watch.Sound

theorem begun (h : w.Sound seen) (id : TemplateId) : (w.begun id).Sound seen :=
  ⟨h.isCached, h.now, h.agrees, h.founded.congr rfl rfl, List.forall_mem_nil _⟩

/-- A module that has been made can be kept. -/
theorem founded_ended {depth : Nat} {id : TemplateId} {kept : Kept} {result : Except Fault CellId} {m : Machine}
    {after : Watch} (h : w.Sound seen) (hkept : w.library.onShelf? name = some kept)
    (hafter : (w.begun id).Leads seen after)
    (hgoes : (moduleAlone w.library.config.strictUndefined kept.loaded).Goes seen w.library after.basis depth result m)
    (cells : Array Cell) :
    Founded seen (w.library.ended after.library name cells (.of result m))
      (w.ended after name cells (.of result m)).bases := by
  have hmanner : after.library.manner = w.library.manner := Library.manner_of_setting hafter.setting
  have hgenuine := (h.founded.template name kept (Option.filter_eq_some_iff.1 hkept).1).congr hmanner
  unfold Library.ended Watch.ended
  rw [if_neg (by simp [hafter.sound.isCached]), hkept]
  cases result with
  | error f => exact hafter.sound.founded.congr rfl rfl
  | ok cell =>
    refine hafter.sound.founded.set ?_ (fun module made hmodule hmade => ?_) (fun other hother => ?_) rfl rfl
    · exact hgenuine
    · cases hmodule
      cases hmade
      refine ⟨after.basis, ?_, ?_⟩
      · exact (named?_setNamed ..).trans (if_pos rfl)
      · have hevaluates : Evaluates seen w.library after.basis kept.loaded (.of (.ok cell) m) :=
          ⟨depth, .ok cell, m, hgoes, rfl⟩
        have hplace : cells.size + cell - cells.size = cell := Nat.add_sub_cancel_left ..
        rw [hplace]
        exact hevaluates.congr hmanner
    · exact (named?_setNamed ..).trans (if_neg hother)

/-- Whatever comes of the evaluation of a module, it leads to a library that is sound. -/
theorem ended {depth : Nat} {id : TemplateId} {kept : Kept} {result : Except Fault CellId} {m : Machine}
    {after : Watch} (h : w.Sound seen) (hkept : w.library.onShelf? name = some kept)
    (hafter : (w.begun id).Leads seen after)
    (hgoes : (moduleAlone w.library.config.strictUndefined kept.loaded).Goes seen w.library after.basis depth result m)
    (cells : Array Cell) : w.Leads seen (w.ended after name cells (.of result m)) := by
  have hsetting : (w.ended after name cells (.of result m)).library.setting = w.library.setting :=
    (w.library.setting_ended after.library name cells _).trans hafter.setting
  have hmodule : ∀ lookup ∈ after.basis.lookups, lookup.isCurrent w.library = true := fun lookup hlookup => by
    rw [← hafter.sound.lookups lookup hlookup]
    exact lookup.isCurrent_congr (Library.files_of_setting hafter.setting.symm)
      (Library.searchPath_of_manner (Library.manner_of_setting hafter.setting.symm))
  have hused := h.with_module hmodule
  exact hused.trans (hused.sound.with_kept (h.founded_ended hkept hafter hgoes cells) hsetting)

end Watch.Sound

/-- A module that is made while the cache does not show is the one that is made without it, by induction on how deep
    modules may be inside each other. -/
theorem makesPlainly (seen : FileSystem → Prop) (depth : Nat) : MakesPlainly seen depth := by
  induction depth with
  | zero =>
    intro w id name cells h _
    refine ⟨⟨⟨h.isCached, h.now, h.agrees, h.founded, h.lookups⟩, rfl, fun _ _ _ hholds => ?_⟩,
      fun plain depth' _ hholds => ?_⟩
    · exact ⟨hholds.lookups, hholds.height, fun _ => hholds.room rfl⟩
    · rw [hholds.room rfl]
      rfl
  | succ depth ih =>
    intro w id name cells h hhidden
    have hleads := h.template id name name
    have hplain_read : (w.template id name name).2.isShown = false → ∀ plain depth depth', Plain seen w.library plain →
        (w.template id name name).2.basis.Holds plain depth depth' →
        plain.template id name name = ((w.template id name name).1, plain) := fun hhidden _ _ _ hplain hholds =>
      h.template_plain hhidden hplain hholds id name
    have hshelf : ∀ l, (w.template id name name).1 = .ok l →
        ∃ kept, (w.template id name name).2.library.onShelf? name = some kept ∧ kept.loaded = l := fun l hl =>
      onShelf?_of_template h.isCached hl
    unfold Watch.make at hhidden ⊢
    generalize w.template id name name = answered at hleads hplain_read hshelf hhidden ⊢
    obtain ⟨answer, read⟩ := answered
    cases answer with
    | error f =>
      refine ⟨hleads.trans (hleads.sound.with_module (List.forall_mem_nil _)), fun plain depth' hplain hholds => ?_⟩
      obtain ⟨inner, rfl, -⟩ := hholds.inside
      have hread := hplain_read hhidden plain _ _ hplain hholds.of_withModule
      unfold Library.make
      rw [hread]
    | ok l =>
      obtain ⟨kept, hkept, rfl⟩ := hshelf l rfl
      dsimp only at hhidden ⊢
      split at hhidden
      · cases hhidden
      next hinside =>
        rw [if_neg hinside]
        obtain ⟨hafter, hgoes⟩ := (hleads.sound.begun id).playWith ih
          (moduleAlone read.library.config.strictUndefined kept.loaded) hhidden
        replace hgoes := hgoes.congr (show read.library.manner = (read.begun id).library.manner from rfl)
        refine ⟨hleads.trans (hleads.sound.ended hkept hafter hgoes cells), fun plain depth' hplain hholds => ?_⟩
        obtain ⟨inner, rfl, hmodule⟩ := hholds.inside
        have hbefore : (read.begun id).isShown = false := Watch.isShown_playWith hhidden
        have hread := hplain_read hbefore plain _ _ hplain hholds.of_withModule
        have hplain_read : Plain seen read.library plain := hplain.congr (Library.manner_of_setting hleads.setting)
        exact Library.make_plain hplain_read hread (hgoes _ inner (hplain_read.begun id)
          ((hmodule depth fun _ => rfl).congr rfl rfl)) cells

/-! ## One template -/

/-- The same library without a cache. -/
def Library.uncached (lib : Library) : Library :=
  { Library.empty with
    files := lib.files
    config := { lib.config with cacheEnabled := false }
    searchPath := lib.searchPath }

theorem Library.uncached_congr (hsetting : lib'.setting = lib.setting) : lib'.uncached = lib.uncached := by
  have hmanner := Library.manner_of_setting hsetting
  rw [Library.uncached, Library.files_of_setting hsetting, Library.config_of_manner hmanner,
    Library.searchPath_of_manner hmanner]
  rfl

/-- The same engine without a cache. -/
def Session.uncached (s : Session) : Session :=
  { s with library := s.library.uncached }

/-- A computation goes the same way without a cache that does not show, if modules are not too deep inside each
    other. -/
theorem Watch.Sound.play_uncached {x : Script α} (h : w.Sound seen)
    (hhidden : (x.playWith Watch.answer w).2.2.isShown = false)
    (hheight : (x.playWith Watch.answer w).2.2.basis.height ≤ depthLimit) :
    let played := x.playWith Watch.answer w
    x.play w.library = (played.1, played.2.1, played.2.2.library) ∧
      x.play w.library.uncached = (played.1, played.2.1, played.2.2.library.uncached) ∧ w.Leads seen played.2.2 := by
  intro played
  obtain ⟨hleads, hgoes⟩ : w.Leads seen played.2.2 ∧
      x.Goes seen w.library played.2.2.basis depthLimit played.1 played.2.1 :=
    h.playWith (makesPlainly seen depthLimit) x hhidden
  have hanswer : ∀ (w : Watch) lib q, w.library = lib →
      (w.answer q).1 = (lib.answer q).1 ∧ (w.answer q).2.library = (lib.answer q).2 :=
    fun w lib q hw => hw ▸ w.answer_library q
  obtain ⟨hresult, hmachine, hlibrary⟩ := x.playWith_alike (R := fun (w : Watch) lib => w.library = lib) hanswer
    (show w.library = w.library from rfl)
  have hplain : Plain seen w.library w.library.uncached := ⟨rfl, rfl, h.agrees, rfl, rfl⟩
  have hholds : played.2.2.basis.Holds w.library.uncached depthLimit depthLimit := by
    refine ⟨fun lookup hlookup => ?_, hheight, fun _ => rfl⟩
    rw [← hleads.sound.lookups lookup hlookup]
    exact lookup.isCurrent_congr (Library.files_of_setting hleads.setting.symm)
      (Library.searchPath_of_manner (Library.manner_of_setting hleads.setting.symm))
  refine ⟨?_, ?_, hleads⟩
  · rw [hresult, hmachine, hlibrary]
    rfl
  · rw [Library.uncached_congr hleads.setting]
    exact hgoes _ _ hplain hholds

/-- What is noted of an engine that is watched, from one template to the next. -/
structure Notes where
  bases : List (String × Basis)
  isShown : Bool

/-- What is noted when a template has been rendered. The cache also shows when modules would be too deep inside each
    other without it. -/
def Session.noted (s : Session) (files : FileSystem) (request : Request Value) (notes : Notes) : Notes :=
  if !s.isConfigured then notes
  else
    match request.source with
    | .error _ => notes
    | .ok source =>
      match programOf s.library.config source with
      | .error _ => notes
      | .ok program =>
        let (_, _, w) := (renderProgram request.name program request.context s.machine.begun).playWith Watch.answer
          ⟨{ s.library with files }, .start, notes.bases, notes.isShown⟩
        ⟨w.bases, w.isShown || decide (depthLimit < w.basis.height)⟩

/-- What has not been shown in the end has not been shown before. -/
theorem isShown_noted {s : Session} {files : FileSystem} {request : Request Value} {notes : Notes}
    (h : (s.noted files request notes).isShown = false) : notes.isShown = false := by
  unfold Session.noted at h
  split at h
  · exact h
  · split at h
    · exact h
    · split at h
      · exact h
      · exact @Watch.isShown_playWith _ depthLimit _ _ (Bool.or_eq_false_iff.1 h).1

theorem library_finish (sink : Sink) (name : String) (m : Machine) (fault : Option Fault) (s : Session) :
    (finish sink name m fault s).state.library = s.library := by
  unfold finish
  dsimp only
  split <;> rfl

theorem finish_uncached (sink : Sink) (name : String) (m : Machine) (fault : Option Fault)
    (s : Session) :
    let w := finish sink name m fault s
    let w' := finish sink name m fault s.uncached
    w'.text = w.text ∧ w'.failure = w.failure ∧ w'.state = w.state.uncached := by
  unfold finish
  dsimp only
  split <;> exact ⟨rfl, rfl, rfl⟩

/-- What is rendered, and how it fails, is the same without a cache that does not show. -/
theorem render_uncached (sink : Sink) (files : FileSystem) {request : Request Value} {s : Session} {notes : Notes}
    (hcached : s.library.config.cacheEnabled = true) (hfounded : Founded seen s.library notes.bases)
    (hseen : seen files) (hagrees : ∀ past, seen past → Agrees past files)
    (hhidden : (s.noted files request notes).isShown = false) :
    let w := render sink files request s
    let w' := render sink files request s.uncached
    (w'.text = w.text ∧ w'.failure = w.failure ∧ w'.state = w.state.uncached) ∧
      Founded seen w.state.library (s.noted files request notes).bases ∧
      w.state.library.config.cacheEnabled = true := by
  unfold Session.noted at hhidden ⊢
  unfold render
  have hconfigured : s.uncached.isConfigured = s.isConfigured := rfl
  rw [hconfigured]
  split_ifs at hhidden ⊢
  · exact ⟨⟨rfl, rfl, rfl⟩, hfounded, hcached⟩
  · cases hsource : request.source with
    | error fault => exact ⟨⟨rfl, rfl, rfl⟩, hfounded, hcached⟩
    | ok source =>
      rw [hsource] at hhidden
      have hprogram : programOf s.uncached.library.config source = programOf s.library.config source := rfl
      dsimp only at hhidden ⊢
      rw [hprogram]
      cases hparsed : programOf s.library.config source with
      | error f =>
        dsimp only
        rw [library_finish]
        exact ⟨finish_uncached .., hfounded, hcached⟩
      | ok program =>
        rw [hparsed] at hhidden
        obtain ⟨hshown, hheight⟩ := Bool.or_eq_false_iff.1 hhidden
        have hbegun : Watch.Sound seen ⟨{ s.library with files }, .start, notes.bases, notes.isShown⟩ :=
          ⟨hcached, hseen, hagrees, hfounded.congr rfl rfl, List.forall_mem_nil _⟩
        obtain ⟨hplay, hplain, hleads⟩ := hbegun.play_uncached hshown (Nat.not_lt.1 (of_decide_eq_false hheight))
        have hmachine : s.uncached.machine.begun = s.machine.begun := rfl
        have hfiles : { s.uncached.library with files } = Library.uncached { s.library with files } := rfl
        dsimp only at hplay hplain ⊢
        rw [hmachine, hfiles, hplay, hplain]
        generalize Script.playWith Watch.answer _ _ = played at hleads ⊢
        obtain ⟨result, m, after⟩ := played
        have hkept (fault : Option Fault) :
            let w := finish sink request.name m fault { s with library := after.library }
            Founded seen w.state.library after.bases ∧ w.state.library.config.cacheEnabled = true := by
          dsimp only
          rw [library_finish]
          exact ⟨hleads.sound.founded, hleads.sound.isCached⟩
        cases result with
        | ok _ => exact ⟨finish_uncached sink request.name m none { s with library := after.library }, hkept none⟩
        | error f =>
          exact ⟨finish_uncached sink request.name m (some f) { s with library := after.library }, hkept (some f)⟩

end TemplateTree.Template
