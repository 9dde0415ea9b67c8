import TemplateTree.Proofs.Lines.Parsing

/-!
# Lines of statements

* `rules_keep`: whatever the rules of the parser find, it has lines of the tokens.
* `parse_within`: the statements of a text have lines of the text, and so has a mistake in it.
-/

namespace TemplateTree.Template.Parser

open Lined (Within)

variable {α β : Type} {ok : Nat → Prop} {r : Rules}

/-! ## Targets -/

/-- Targets have the lines of their expressions if each of them has. -/
theorem targets_within_of_forall {es : List (Expr String)}
    (hone : ∀ e ∈ es, ∀ {t : Target String}, e.Within ok → asTarget? e = some t → t.Within ok)
    {ts : List (Target String)} (hes : Within ok es) (h : asTargets? es = some ts) : Within ok ts := by
  induction es generalizing ts with
  | nil =>
    unfold asTargets? at h
    exact Option.some.inj h ▸ within_nil.2 trivial
  | cons e es ih =>
    unfold asTargets? at h
    split at h
    next t ts' ht hts =>
      obtain ⟨he, hes⟩ := (within_cons e es).1 hes
      refine Option.some.inj h ▸ (within_cons t ts').2 ⟨hone e List.mem_cons_self he ht, ?_⟩
      exact ih (fun e he => hone e (List.mem_cons_of_mem _ he)) hes hts
    next => cases h

theorem asTarget?_within (e : Expr String) {t : Target String} (he : e.Within ok) (h : asTarget? e = some t) :
    t.Within ok := by
  cases e with
  | name line s =>
    cases he with
    | name hl =>
      unfold asTarget? at h
      split at h
      · cases h
      · exact Option.some.inj h ▸ .name hl s
  | tuple line es =>
    cases he with
    | tuple hl hes =>
      unfold asTarget? at h
      obtain ⟨ts, hts, rfl⟩ := Option.map_eq_some_iff.1 h
      exact .tuple hl (targets_within_of_forall (fun e hmem => asTarget?_within e) hes hts)
  | _ =>
    unfold asTarget? at h
    cases h

theorem target?_within {a : Assignable} {t : Target String} (ha : Within ok a) (h : a.target? = some t) :
    t.Within ok := by
  cases a with
  | inl e => exact asTarget?_within e ha h
  | inr u => exact Option.some.inj h ▸ ha

theorem targets_within {items : List Assignable} {ts : List (Target String)} (h : Within ok items)
    (hts : items.mapM Assignable.target? = some ts) : Within ok ts := by
  induction items generalizing ts with
  | nil => exact Option.some.inj hts ▸ within_nil.2 trivial
  | cons a items ih =>
    rw [List.mapM_cons] at hts
    obtain ⟨t, ht, hts⟩ := Option.bind_eq_some_iff.1 hts
    obtain ⟨ts, hts, heq⟩ := Option.bind_eq_some_iff.1 hts
    obtain ⟨ha, hitems⟩ := (within_cons a items).1 h
    exact Option.some.inj heq ▸ (within_cons t ts).2 ⟨target?_within ha ht, ih hitems hts⟩

theorem assignableTuple_within {l : Nat} (hl : ok l) {items : List Assignable} (h : Within ok items) :
    Within ok (Assignable.tuple l items) := by
  unfold Assignable.tuple
  split
  next ts hts => exact Target.Within.tuple hl (targets_within h hts)
  next => exact .tuple hl (by simpa using .literal hl _)

/-! ## Parts of statements -/

@[grind ←] theorem tuple_keeps {item : Parse (Expr String)} (h : Keeps ok item) (ends : List String)
    (parenthesised : Bool) : Keeps ok (tuple item ends parenthesised) :=
  tupleOf_keeps h (fun _ _ hl has => .tuple hl has) ends parenthesised

@[grind ←] theorem nameTarget_keeps : Keeps ok nameTarget := by
  unfold nameTarget
  grind

@[grind ←] theorem failTags_keeps [Lined α] (name : Option String) (ends : List (List String)) {l : Nat} (hl : ok l) :
    Keeps ok (failTags name ends l : Parse α) :=
  .bind .get fun _ _ => failAt_keeps hl _

@[grind ←] theorem tagLine_keeps : Keeps ok tagLine := by
  unfold tagLine
  grind

@[grind ←] theorem contextChoice_keeps (default : Bool) : Keeps ok (contextChoice default) := by
  unfold contextChoice
  grind

@[grind ←] theorem importContext?_keeps : Keeps ok importContext? := by
  unfold importContext?
  refine .bind kind_keeps fun k _ => ?_
  extract_lets choose
  have hchoose : ∀ chosen, Keeps ok (choose chosen) := fun chosen => by
    dsimp only [choose]
    split
    · exact .bind advance_keeps fun t _ => .bind advance_keeps fun _ _ => .pure ((within_some _).2 trivial)
    · exact .pure (within_none.2 trivial)
  clear_value choose
  grind

@[grind ←] theorem importedName_keeps : Keeps ok importedName := by
  unfold importedName
  grind

@[grind ←] theorem flush_within {g : Gathered} (hg : Within ok g) : Within ok g.flush := by
  unfold Gathered.flush
  split
  · exact hg.1
  next e es hitems =>
    have he : e.Within ok := hg.2 e (hitems ▸ List.mem_cons_self)
    exact (within_snoc _ _).2 ⟨hg.1, .output he.line hg.2⟩

section

variable (hr : r.Keep ok)

include hr

@[grind ←] theorem assignable_keeps (fields : Bool) : Keeps ok (assignable r fields) := by
  unfold assignable
  refine .bind current_keeps fun t ht => ?_
  extract_lets take
  have htake : ∀ isField, Keeps ok (take isField) := fun isField => by
    simp only [take]
    split
    · refine .bind expectName_keeps fun name hname => .bind advance_keeps fun _ _ => ?_
      exact .bind expectName_keeps fun field _ => .done (.field hname.2 _ _)
    · exact .bind (primary_keeps hr) fun e he => .next he
  clear_value take
  grind

@[grind ←] theorem assignTarget_keeps (fields : Bool) (ends : List String) : Keeps ok (assignTarget r fields ends) := by
  unfold assignTarget
  refine .bind (tupleOf_keeps (assignable_keeps hr fields) (fun l as hl has => assignableTuple_within hl has) ends false)
    fun a ha => ?_
  split
  next t _ ht => exact .pure (target?_within ha ht)
  next e _ => exact failAt_keeps (Expr.Within.line ha) _
  next => exact failHere_keeps _

@[grind ←] theorem bodyUntil_keeps (ends : List String) : Keeps ok (bodyUntil r ends) := by
  unfold bodyUntil
  grind

@[grind ←] theorem bodyTo_keeps (ending : String) : Keeps ok (bodyTo r ending) := by
  unfold bodyTo
  grind

/-! ## Statements -/

theorem setStmt_keeps : Keeps ok (setStmt r) := by
  unfold setStmt
  grind

theorem forStmt_keeps : Keeps ok (forStmt r) := by
  unfold forStmt
  refine .bind tagLine_keeps fun l hl => .bind (assignTarget_keeps hr _ _) fun target htarget => ?_
  refine .bind (expectWord_keeps _) fun _ _ => .bind (tuple_keeps hr.disjunction _ _) fun iter hiter => ?_
  refine .bind (skipWord_keeps _) fun hasTest _ => ?_
  extract_lets rest
  have hrest : ∀ test, Within ok test → Keeps ok (rest test) := fun test htest => by
    refine .bind (skipWord_keeps _) fun recursive _ => .bind (bodyUntil_keeps hr _) fun body hbody => ?_
    grind
  clear_value rest
  grind

theorem ifStmt_keeps : Keeps ok (ifStmt r) := by
  unfold ifStmt
  refine .bind tagLine_keeps fun l hl => ?_
  extract_lets branch
  have hbranch : Keeps ok branch := .bind (tuple_keeps hr.disjunction _ _) fun test htest =>
    .bind (bodyUntil_keeps hr _) fun body hbody => .pure ⟨htest, hbody⟩
  clear_value branch
  refine .bind hbranch fun first hfirst => loop_keeps (fun elifs helifs => ?_) (within_nil.2 trivial)
  refine .bind advance_keeps fun t _ => ?_
  split
  · refine .bind line_keeps fun l' hl' => .bind hbranch fun b hb => .next ?_
    exact (within_snoc _ _).2 ⟨helifs, hl', hb⟩
  · split
    · refine .bind (bodyTo_keeps hr _) fun otherwise hotherwise => .done ?_
      exact within_ifElse hl hfirst.1 hfirst.2 helifs hotherwise
    · exact .done (within_ifElse hl hfirst.1 hfirst.2 helifs (within_nil.2 trivial))

theorem withStmt_keeps : Keeps ok (withStmt r) := by
  unfold withStmt
  refine .bind tagLine_keeps fun l hl => .bind (loop_keeps (fun bindings hbindings => ?_) (within_nil.2 trivial))
    fun bindings hbindings => ?_
  · refine .bind kind_keeps fun k _ => ?_
    extract_lets next
    have hnext : ∀ u, Keeps ok (next u) := fun _ => by
      refine .bind (assignTarget_keeps hr _ _) fun target htarget => .bind (expectOp_keeps _) fun _ _ => ?_
      grind
    clear_value next
    grind
  · exact .bind (bodyTo_keeps hr _) fun body hbody => .pure (within_withScope hl hbindings hbody)

theorem autoescapeStmt_keeps : Keeps ok (autoescapeStmt r) := by
  unfold autoescapeStmt
  grind

theorem blockStmt_keeps : Keeps ok (blockStmt r) := by
  unfold blockStmt
  refine .bind tagLine_keeps fun l hl => .bind expectName_keeps fun name _ => ?_
  refine .bind (skipWord_keeps _) fun isScoped _ => .bind (skipWord_keeps _) fun isRequired _ => ?_
  refine .bind kind_keeps fun k _ => ?_
  extract_lets rest
  have hrest : ∀ u, Keeps ok (rest u) := fun _ => by
    refine .bind (bodyTo_keeps hr _) fun body hbody => ?_
    extract_lets make
    have hmake : ∀ u, Keeps ok (make u) := fun _ =>
      .bind (skipWord_keeps _) fun _ _ => .pure (.block hl _ _ _ hbody)
    clear_value make
    grind
  clear_value rest
  split
  · exact .bind (failHere_keeps _) fun u _ => hrest u
  · exact hrest ()

theorem includeStmt_keeps : Keeps ok (includeStmt r) := by
  unfold includeStmt
  refine .bind tagLine_keeps fun l hl => .bind hr.expression fun template htemplate => .bind kind_keeps fun k _ => ?_
  extract_lets rest
  have hrest : ∀ ignore, Keeps ok (rest ignore) := by grind
  clear_value rest
  grind

theorem importStmt_keeps : Keeps ok (importStmt r) := by
  unfold importStmt
  grind

theorem fromStmt_keeps : Keeps ok (fromStmt r) := by
  unfold fromStmt
  refine .bind tagLine_keeps fun l hl => .bind hr.expression fun template htemplate => ?_
  refine .bind (expectWord_keeps _) fun _ _ => .bind (loop_keeps (fun names _ => ?_) (within_nil.2 trivial))
    fun names _ => .pure (.importNames hl htemplate _ _)
  extract_lets name start
  have hname : ∀ u, Keeps ok (name u) := fun _ => by
    refine .bind importContext?_keeps fun context _ => ?_
    split
    · exact .done ⟨fun _ _ => ⟨trivial, trivial⟩, trivial⟩
    · refine .bind importedName_keeps fun new _ => ?_
      extract_lets names
      have hnames : Within ok names := fun _ _ => ⟨trivial, trivial⟩
      clear_value names
      grind
  clear_value name
  have hstart : ∀ u, Keeps ok (start u) := by grind
  clear_value start
  grind

theorem signature_keeps : Keeps ok (signature r) := by
  unfold signature
  refine .bind (expectOp_keeps _) fun _ _ => .bind (loop_keeps (fun p hp => ?_) (by grind)) fun p hp => ?_
  · obtain ⟨params, defaults⟩ := p
    obtain ⟨hparams, hdefaults⟩ : Within ok params ∧ Within ok defaults := hp
    simp -zeta only []
    refine .bind kind_keeps fun k _ => ?_
    extract_lets next
    have hnext : ∀ u, Keeps ok (next u) := fun _ => by
      refine .bind nameTarget_keeps fun name hname => ?_
      grind
    clear_value next
    grind
  · exact .bind (expectOp_keeps _) fun _ _ => .pure hp

theorem macroStmt_keeps : Keeps ok (macroStmt r) := by
  unfold macroStmt
  have := signature_keeps hr
  grind

theorem callStmt_keeps : Keeps ok (callStmt r) := by
  unfold callStmt
  refine .bind tagLine_keeps fun l hl => .bind kind_keeps fun k _ => ?_
  extract_lets rest
  have hrest : ∀ p, Within ok p → Keeps ok (rest p) := fun p hp => by
    refine .bind hr.expression fun call hcall => ?_
    extract_lets make
    have hmake : ∀ u, Keeps ok (make u) := fun _ =>
      .bind (bodyTo_keeps hr _) fun body hbody => .pure (within_callBlock hl _ hp.2 hcall hbody)
    clear_value make
    grind
  clear_value rest
  have := signature_keeps hr
  grind

theorem filterStmt_keeps : Keeps ok (filterStmt r) := by
  unfold filterStmt
  refine .bind tagLine_keeps fun l hl => .bind (filterOf_keeps hr (within_none.2 trivial)) fun first hfirst => ?_
  refine .bind (filters_keeps hr ((within_some _).2 hfirst)) fun filter hfilter => ?_
  refine .bind (bodyTo_keeps hr _) fun body hbody => .pure (within_filterBlock hl ?_ hbody)
  cases filter with
  | none => exact hfirst
  | some e => exact (within_some e).1 hfilter

theorem printStmt_keeps : Keeps ok (printStmt r) := by
  unfold printStmt
  refine .bind tagLine_keeps fun l hl => .bind (loop_keeps (fun items hitems => ?_) (within_nil.2 trivial))
    fun items hitems => .pure (.output hl hitems)
  refine .bind kind_keeps fun k _ => ?_
  grind

omit hr in
theorem chosenRule_keeps {b : Bool} {x rule : Parse Stmt} {others : Option (Parse Stmt)}
    (h : (if b then some x else others) = some rule) (hx : Keeps ok x) (hothers : others = some rule → Keeps ok rule) :
    Keeps ok rule := by
  cases b with
  | true => exact Option.some.inj h ▸ hx
  | false => exact hothers h

theorem statementRule?_keeps {word : String} {rule : Parse Stmt} (h : statementRule? r word = some rule) :
    Keeps ok rule := by
  have hextends : Keeps ok (do let l ← tagLine; return .extends l (← r.expression) : Parse Stmt) :=
    .bind tagLine_keeps fun l hl => .bind hr.expression fun e he => .pure (.extends hl he)
  unfold statementRule? at h
  refine chosenRule_keeps h (forStmt_keeps hr) fun h => chosenRule_keeps h (ifStmt_keeps hr) fun h => ?_
  refine chosenRule_keeps h (blockStmt_keeps hr) fun h => chosenRule_keeps h hextends fun h => ?_
  refine chosenRule_keeps h (printStmt_keeps hr) fun h => chosenRule_keeps h (macroStmt_keeps hr) fun h => ?_
  refine chosenRule_keeps h (includeStmt_keeps hr) fun h => chosenRule_keeps h (fromStmt_keeps hr) fun h => ?_
  refine chosenRule_keeps h (importStmt_keeps hr) fun h => chosenRule_keeps h (setStmt_keeps hr) fun h => ?_
  refine chosenRule_keeps h (withStmt_keeps hr) fun h => chosenRule_keeps h (autoescapeStmt_keeps hr) fun h => ?_
  refine chosenRule_keeps h (callStmt_keeps hr) fun h => chosenRule_keeps h (filterStmt_keeps hr) fun h => ?_
  cases h

theorem statement_keeps : Keeps ok (statement r) := by
  unfold statement
  refine .bind current_keeps fun t ht => ?_
  split
  · split
    next rule hrule =>
      refine .bind (.modify fun s hs => hs) fun _ _ => .bind (statementRule?_keeps hr hrule) fun s hs => ?_
      exact .bind (.modify fun s hs => hs) fun _ _ => .pure hs
    next => exact .bind .get fun _ _ => failTags_keeps _ _ ht
  · exact failAt_keeps ht _

theorem gather_keeps (ends : Option (List String)) {g : Gathered} (hg : Within ok g) :
    Keeps ok (gather r ends g) := by
  unfold gather
  have := statement_keeps hr
  refine .bind current_keeps fun t ht => ?_
  split <;> grind

theorem statementsUntil_keeps (ends : Option (List String)) : Keeps ok (statementsUntil r ends) := by
  unfold statementsUntil
  refine .bind (.modify fun s hs => hs) fun _ _ => ?_
  refine .bind (loop_keeps (fun g hg => gather_keeps hr ends hg) ⟨within_nil.2 trivial, within_nil.2 trivial⟩)
    fun body hbody => ?_
  exact .bind (.modify fun s hs => hs) fun _ _ => .pure hbody

end

/-- At every depth of nesting, the rules find no lines besides those of the tokens. -/
theorem rules_keep (depth : Nat) : (rules depth).Keep ok := by
  induction depth with
  | zero =>
    exact ⟨failHere_keeps _, failHere_keeps _, failHere_keeps _, failHere_keeps _, fun _ => failHere_keeps _⟩
  | succ depth ih =>
    exact ⟨expression_keeps ih, disjunction_keeps ih, negation_keeps ih, signed_keeps ih, statementsUntil_keeps ih⟩

/-! ## Texts -/

/-- The statements of a text have lines of the text, and so has a mistake in it. -/
theorem parse_within (config : Lexer.Config) (source : String) :
    (∀ body, parse config source = .ok body → ∀ s ∈ body, s.Within (IsLine source)) ∧
      ∀ f, parse config source = .error f → f.On (IsLine source) := by
  have hscan := Lexer.scan_within config source
  unfold parse parseTokens
  extract_lets start whole
  have hstart : Within (IsLine source) start := ⟨isLine_one source, hscan.tokens, hscan.fault⟩
  have hwhole : Keeps (IsLine source) whole :=
    .bind advance_keeps fun _ _ => statementsUntil_keeps (rules_keep _) none
  have h := hwhole start hstart
  cases hrun : whole.run start with
  | ok r =>
    simp only [hrun] at h
    exact ⟨fun body hbody => Except.ok.inj hbody ▸ h.1, nofun⟩
  | error f =>
    simp only [hrun] at h
    exact ⟨nofun, fun f' hf => Except.error.inj hf ▸ h⟩

end TemplateTree.Template.Parser
