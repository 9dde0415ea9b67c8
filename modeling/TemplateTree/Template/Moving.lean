import TemplateTree.Template.Machine

/-!
# Moving cells

Cells that have been made in a machine of their own are put behind the cells of another machine. What refers to
them then has to refer to the places where they are.

* `Value.moved`: a value whose cells have been put further back.
* `Cell.moved`: a cell that refers to cells that have been put further back.
-/

namespace TemplateTree.Template

mutual

/-- A value whose cells have been put `distance` places further back. -/
def Value.moved (distance : Nat) : Value → Value
  | .tuple items => .tuple (Value.movedAll distance items)
  | .group key members => .group (key.moved distance) (members.moved distance)
  | .set members => .set (Value.movedAll distance members)
  | .slice start stop step => .slice (start.moved distance) (stop.moved distance) (step.moved distance)
  | .list id => .list (distance + id)
  | .dict id => .dict (distance + id)
  | .view part id => .view part (distance + id)
  | .object kind id => .object kind (distance + id)
  | .method receiver name => .method (receiver.moved distance) name
  | v => v

/-- Values whose cells have been put `distance` places further back. -/
def Value.movedAll (distance : Nat) : List Value → List Value
  | [] => []
  | v :: rest => v.moved distance :: Value.movedAll distance rest

end

variable (distance : Nat)

/-- Named values whose cells have been put further back. -/
def movedEntries (entries : List (String × Value)) : List (String × Value) :=
  entries.map fun (name, v) => (name, v.moved distance)

/-- Arguments whose cells have been put further back. -/
def Arguments.moved (args : Arguments) : Arguments :=
  ⟨args.positional.map (·.moved distance), movedEntries distance args.named⟩

/-- A block of a template that has been put further back. -/
def BlockRef.moved (ref : BlockRef) : BlockRef :=
  { ref with template := distance + ref.template }

/-- A scope among cells that have been put further back. -/
def Scope.moved (s : Scope) : Scope where
  vars := s.vars.map fun (r, v) => (r, v.map (·.moved distance))
  outer := s.outer.map (distance + ·)
  parent := s.parent.map (distance + ·)

/-- A context among cells that have been put further back. -/
def Context.moved (c : Context) : Context :=
  { c with
    given := movedEntries distance c.given
    own := movedEntries distance c.own
    blocks := c.blocks.map fun (name, versions) => (name, versions.map (·.moved distance)) }

/-- A site among cells that have been put further back. -/
def Site.moved (s : Site) : Site where
  scope := distance + s.scope
  context := distance + s.context
  template := distance + s.template
  file := s.file
  captured := s.captured.moved distance

/-- A macro among cells that have been put further back. -/
def Procedure.moved (p : Procedure) : Procedure :=
  { p with site := p.site.moved distance }

/-- A recursive loop among cells that have been put further back. -/
def Recursion.moved (r : Recursion) : Recursion :=
  { r with site := r.site.moved distance }

/-- The state of a loop among cells that have been put further back. -/
def LoopState.moved (l : LoopState) : LoopState :=
  { l with
    iterable := l.iterable.moved distance
    source := distance + l.source
    before := l.before.map (·.moved distance)
    current := l.current.map (·.moved distance)
    after := l.after.map (·.moved distance)
    lastChecked := l.lastChecked.map (·.map (·.moved distance))
    recursion := l.recursion.map (·.moved distance) }

/-- A module among cells that have been put further back. -/
def Module.moved (m : Module) : Module :=
  { m with
    output := m.output.map (·.moved distance)
    exports := movedEntries distance m.exports }

/-- A step to a part of an item, with values whose cells have been put further back. -/
def ItemStep.moved : ItemStep → ItemStep
  | .attribute parts default => .attribute (parts.map (·.moved distance)) (default.moved distance)
  | .filter name args => .filter (name.moved distance) (args.moved distance)

/-- A test of an item, with values whose cells have been put further back. -/
def ItemTest.moved : ItemTest → ItemTest
  | .test name args => .test (name.moved distance) (args.moved distance)
  | .truth => .truth

/-- What is still to come of a sequence among cells that have been put further back. -/
def Iter.moved : Iter → Iter
  | .done => .done
  | .items rest => .items (rest.map (·.moved distance))
  | .live list position => .live (distance + list) position
  | .range next stop step => .range next stop step
  | .deferred filter escapes value args =>
    .deferred filter escapes (value.moved distance) (args.moved distance)
  | .mapped source escapes step => .mapped (distance + source) escapes (step.moved distance)
  | .selected source wanted part test =>
    .selected (distance + source) wanted (part.map (·.moved distance)) (test.moved distance)
  | .distinct source step ignoresCase seen =>
    .distinct (distance + source) (step.moved distance) ignoresCase (seen.map (·.moved distance))
  | .tested source site target line test =>
    .tested (distance + source) (site.moved distance) target line test

/-- A cell among cells that have been put further back. -/
def Cell.moved : Cell → Cell
  | .list items => .list (items.map (·.moved distance))
  | .dict entries => .dict (entries.map fun (k, v) => (k.moved distance, v.moved distance))
  | .fields entries => .fields (movedEntries distance entries)
  | .cycler items position => .cycler (items.map (·.moved distance)) position
  | .joiner separator used => .joiner (separator.moved distance) used
  | .procedure p => .procedure (p.moved distance)
  | .moduleOf m => .moduleOf (m.moved distance)
  | .loop l => .loop (l.moved distance)
  | .iterator i => .iterator (i.moved distance)
  | .block name id versions => .block name (distance + id) (versions.map (·.moved distance))
  | .blocks id => .blocks (distance + id)
  | .scope s => .scope (s.moved distance)
  | .context c => .context (c.moved distance)
  | .template l => .template l

/-- What an evaluation in a machine of its own has come to, with its cells behind others. -/
def Made.behind (cells : Array Cell) (made : Made) : Made where
  result := made.result.map (cells.size + ·)
  cells := cells ++ made.cells.map (·.moved cells.size)

end TemplateTree.Template
